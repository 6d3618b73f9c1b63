import Mathlib.Data.List.Nodup
import SearchClause.Toml.Reader

/-!
# A document defines each key once

Tables are changed in steps, and every step puts one value under one key: under a key that is not
there yet, or in the place of a table that goes on there (`Puts`). So no step makes a key occur
twice, and a table that was read has each of its keys once.

* **steps** — `exists_puts_of_changeAt`, `exists_puts_of_assign`, `exists_puts_of_define`: what each
  kind of change puts;
* **runs** — `KeepsKeys` for one table, `KeysOnce` for a table together with the tables that are its
  values;
* **reading** — `keysOnce_of_value?` for tables between braces, `keysOnce_of_document?` for
  documents.
-/

namespace SearchClause

namespace Toml

variable {origin : Origin} {key : Text} {v w : Value} {entries entries' : Entries}

/-! ## Keys -/

/-- The keys of entries. -/
def Entries.keys (entries : Entries) : List Text :=
  entries.map Prod.fst

theorem Entries.get?_eq_none (h : key ∉ entries.keys) : Entries.get? key entries = none := by
  induction entries with
  | nil => rfl
  | cons e entries ih =>
    obtain ⟨hne, hrest⟩ := List.ne_and_not_mem_of_not_mem_cons h
    rw [Entries.get?, if_neg (Ne.symm hne), ih hrest]

theorem Entries.mem_of_get? (h : Entries.get? key entries = some v) : (key, v) ∈ entries := by
  induction entries with
  | nil => cases h
  | cons e entries ih =>
    obtain ⟨k, u⟩ := e
    rw [Entries.get?] at h
    split at h
    next heq =>
      obtain rfl := Option.some.inj h
      exact heq ▸ List.mem_cons_self
    next => exact List.mem_cons_of_mem _ (ih h)

theorem Entries.not_mem_keys (h : Entries.get? key entries = none) : key ∉ entries.keys := by
  induction entries with
  | nil => exact List.not_mem_nil
  | cons e entries ih =>
    obtain ⟨k, u⟩ := e
    rw [Entries.get?] at h
    split at h
    next => cases h
    next hne => exact List.not_mem_cons_of_ne_of_not_mem (Ne.symm hne) (ih h)

theorem Entries.keys_replace (key : Text) (w : Value) (entries : Entries) :
    (Entries.replace key w entries).keys = entries.keys := by
  induction entries with
  | nil => rfl
  | cons e entries ih =>
    rw [Entries.replace]
    split
    next => rfl
    next => exact congrArg (e.1 :: ·) ih

theorem Entries.mem_replace {e : Text × Value} (h : e ∈ Entries.replace key w entries) :
    e ∈ entries ∨ e.2 = w := by
  induction entries with
  | nil => cases h
  | cons first entries ih =>
    rw [Entries.replace] at h
    split at h
    next =>
      rcases List.mem_cons.1 h with rfl | h
      · exact .inr rfl
      · exact .inl (List.mem_cons_of_mem _ h)
    next =>
      rcases List.mem_cons.1 h with rfl | h
      · exact .inl List.mem_cons_self
      · exact (ih h).imp_left (List.mem_cons_of_mem _)

/-! ## Steps -/

/-- Whether a value, if it is a table, has no key twice. -/
def Value.KeysOnce : Value → Prop
  | .table _ entries => (Entries.keys entries).Nodup
  | _ => True

/-- No key occurs twice, neither here nor in a table that is a value here. -/
structure KeysOnce (entries : Entries) : Prop where
  /-- the keys of the entries -/
  own : entries.keys.Nodup
  /-- the keys of their values -/
  values : ∀ e ∈ entries, e.2.KeysOnce

/-- A value is put under a key that is new, or in the place of another. -/
def Puts (key : Text) (w : Value) (before after : Entries) : Prop :=
  (Entries.get? key before = none ∧ after = before ++ [(key, w)]) ∨
    after = Entries.replace key w before

theorem Puts.nodup_keys (h : Puts key w entries entries') (hkeys : entries.keys.Nodup) :
    entries'.keys.Nodup := by
  rcases h with ⟨hnew, rfl⟩ | rfl
  · rw [Entries.keys, List.map_append, List.nodup_append]
    refine ⟨hkeys, List.nodup_singleton _, fun k hk k' hk' heq => ?_⟩
    rw [heq, List.mem_singleton.1 hk'] at hk
    exact Entries.not_mem_keys hnew hk
  · rwa [Entries.keys_replace]

theorem Puts.keysOnce (h : Puts key w entries entries') (hw : w.KeysOnce)
    (hentries : KeysOnce entries) : KeysOnce entries' := by
  refine ⟨h.nodup_keys hentries.own, fun e he => ?_⟩
  have hcases : e ∈ entries ∨ e.2 = w := by
    rcases h with ⟨-, rfl⟩ | rfl
    · rcases List.mem_append.1 he with he | he
      · exact .inl he
      · exact .inr (by rw [List.mem_singleton.1 he])
    · exact Entries.mem_replace he
  rcases hcases with he | he
  · exact hentries.values e he
  · exact he ▸ hw

/-- A change after which a table has no key twice if it had none before. -/
def KeepsKeys (change : Change) : Prop :=
  ∀ origin entries p, change origin entries = some p → entries.keys.Nodup → p.2.keys.Nodup

section

variable {dotted : Bool} {change : Change} {path : List Text} {p : Origin × Entries}

theorem keysOnce_changeTable (hchange : KeepsKeys change) (hv : v.KeysOnce)
    (h : v.changeTable dotted change = some w) : w.KeysOnce := by
  unfold Value.changeTable at h
  split at h
  next => cases h
  next o es _ =>
    split at h
    next => cases h
    next =>
      obtain ⟨p, hp, rfl⟩ := Option.map_eq_some_iff.1 h
      exact hchange o es p hp hv
  next =>
    split at h
    next =>
      obtain ⟨p, -, rfl⟩ := Option.map_eq_some_iff.1 h
      trivial
    next => cases h
  next => cases h

/-- **What a change at the end of a path puts** under the first key of the path. -/
theorem exists_puts_of_changeAt (h : changeAt dotted change (key :: path) origin entries = some p)
    (hchange : KeepsKeys (changeAt dotted change path)) :
    ∃ w, Puts key w entries p.2 ∧ (KeysOnce entries → w.KeysOnce) := by
  rw [changeAt] at h
  cases hget : Entries.get? key entries with
  | none =>
    simp only [hget] at h
    obtain ⟨q, hq, rfl⟩ := Option.map_eq_some_iff.1 h
    exact ⟨_, .inl ⟨hget, rfl⟩, fun _ => hchange _ _ q hq List.nodup_nil⟩
  | some v =>
    simp only [hget] at h
    obtain ⟨w, hw, rfl⟩ := Option.map_eq_some_iff.1 h
    refine ⟨w, .inr rfl, fun hentries => ?_⟩
    exact keysOnce_changeTable hchange (hentries.values _ (Entries.mem_of_get? hget)) hw

/-- A change deep inside puts something here, so it keeps the keys whatever it is. -/
theorem keepsKeys_changeAt (hchange : KeepsKeys change) (path : List Text) :
    KeepsKeys (changeAt dotted change path) := by
  induction path with
  | nil => exact hchange
  | cons key path ih =>
    intro origin entries p h hkeys
    obtain ⟨w, hputs, -⟩ := exists_puts_of_changeAt h ih
    exact hputs.nodup_keys hkeys

/-- The change of an assignment at the end of its path. -/
def Assignment.define (a : Assignment) : Change := fun origin entries =>
  if (origin = .dotted) != !a.path.isEmpty then none
  else
    match entries.get? a.key with
    | some _ => none
    | none => some (origin, entries ++ [(a.key, a.value)])

theorem assign_eq_changeAt (a : Assignment) :
    assign a = changeAt (!a.path.isEmpty) a.define a.path :=
  rfl

theorem puts_of_assignment {a : Assignment} (h : a.define origin entries = some p) :
    Puts a.key a.value entries p.2 := by
  unfold Assignment.define at h
  split at h
  next => cases h
  next =>
    split at h
    next => cases h
    next hnew =>
      obtain rfl := Option.some.inj h
      exact .inl ⟨hnew, rfl⟩

theorem keepsKeys_assignment (a : Assignment) : KeepsKeys a.define :=
  fun _ _ _ h hkeys => (puts_of_assignment h).nodup_keys hkeys

/-- **What an assignment puts**: its value, or a table that leads to it. -/
theorem exists_puts_of_assign {a : Assignment} (h : assign a origin entries = some p) :
    ∃ key w, Puts key w entries p.2 ∧ (a.value.KeysOnce → KeysOnce entries → w.KeysOnce) := by
  rw [assign_eq_changeAt] at h
  obtain ⟨path, key, value⟩ := a
  cases path with
  | nil => exact ⟨key, value, puts_of_assignment h, fun hvalue _ => hvalue⟩
  | cons first path =>
    obtain ⟨w, hputs, hw⟩ :=
      exists_puts_of_changeAt h (keepsKeys_changeAt (keepsKeys_assignment _) path)
    exact ⟨first, w, hputs, fun _ => hw⟩

theorem keepsKeys_assignAll (list : List Assignment) : KeepsKeys (assignAll list) := by
  induction list with
  | nil =>
    intro origin entries p h hkeys
    obtain rfl := Option.some.inj h
    exact hkeys
  | cons a list ih =>
    intro origin entries p h hkeys
    obtain ⟨q, hq, hp⟩ := Option.bind_eq_some_iff.1 h
    obtain ⟨key, w, hputs, -⟩ := exists_puts_of_assign hq
    exact ih _ _ p hp (hputs.nodup_keys hkeys)

theorem keysOnce_assignAll {list : List Assignment} (hlist : ∀ a ∈ list, a.value.KeysOnce)
    (hentries : KeysOnce entries) (h : assignAll list origin entries = some p) : KeysOnce p.2 := by
  induction list generalizing origin entries with
  | nil =>
    obtain rfl := Option.some.inj h
    exact hentries
  | cons a list ih =>
    rw [List.forall_mem_cons] at hlist
    obtain ⟨q, hq, hp⟩ := Option.bind_eq_some_iff.1 h
    obtain ⟨key, w, hputs, hw⟩ := exists_puts_of_assign hq
    exact ih hlist.2 (hputs.keysOnce (hw hlist.1 hentries) hentries) hp

/-- **What a section puts**: a table with its assignments. -/
theorem exists_puts_of_define {s : Section} (h : s.define origin entries = some p) :
    ∃ w, Puts s.key w entries p.2 ∧ (KeysOnce entries → w.KeysOnce) := by
  have hfilled : ∀ (start : Entries) (u : Value), start.keys.Nodup →
      (assignAll s.assignments .header start).map (fun p => Value.table p.1 p.2) = some u →
        u.KeysOnce := by
    intro start u hstart hu
    obtain ⟨q, hq, rfl⟩ := Option.map_eq_some_iff.1 hu
    exact keepsKeys_assignAll _ _ _ q hq hstart
  unfold Section.define at h
  dsimp only at h
  split at h
  next _ hnew =>
    obtain ⟨u, hu, rfl⟩ := Option.map_eq_some_iff.1 h
    exact ⟨u, .inl ⟨hnew, rfl⟩, fun _ => hfilled [] u List.nodup_nil hu⟩
  next start _ hold =>
    obtain ⟨u, hu, rfl⟩ := Option.map_eq_some_iff.1 h
    refine ⟨u, .inr rfl, fun hentries => hfilled start u ?_ hu⟩
    exact hentries.values _ (Entries.mem_of_get? hold)
  next _ hnew =>
    obtain ⟨u, -, rfl⟩ := Option.map_eq_some_iff.1 h
    exact ⟨_, .inl ⟨hnew, rfl⟩, fun _ => trivial⟩
  next =>
    obtain ⟨u, -, rfl⟩ := Option.map_eq_some_iff.1 h
    exact ⟨_, .inr rfl, fun _ => trivial⟩
  next => cases h

theorem keepsKeys_define (s : Section) : KeepsKeys s.define := by
  intro origin entries p h hkeys
  obtain ⟨w, hputs, -⟩ := exists_puts_of_define h
  exact hputs.nodup_keys hkeys

theorem keysOnce_addSections {sections : List Section} (hentries : KeysOnce entries)
    (h : addSections sections entries = some entries') : KeysOnce entries' := by
  induction sections generalizing entries with
  | nil =>
    obtain rfl := Option.some.inj h
    exact hentries
  | cons s sections ih =>
    obtain ⟨q, hq, hp⟩ := Option.bind_eq_some_iff.1 h
    refine ih ?_ hp
    obtain ⟨listed, path, key, assignments⟩ := s
    cases path with
    | nil =>
      obtain ⟨w, hputs, hw⟩ := exists_puts_of_define hq
      exact hputs.keysOnce (hw hentries) hentries
    | cons first path =>
      obtain ⟨w, hputs, hw⟩ :=
        exists_puts_of_changeAt hq (keepsKeys_changeAt (keepsKeys_define _) path)
      exact hputs.keysOnce (hw hentries) hentries

end

/-! ## Reading -/

theorem keysOnce_wholeValue (base : Nat) (t : Text) : (wholeValue base t).KeysOnce := by
  unfold wholeValue
  dsimp only
  split <;> trivial

theorem keysOnce_floatValue (t : Text) : (floatValue t).KeysOnce := by
  unfold floatValue
  dsimp only
  split <;> trivial

theorem keysOnce_of_baseNumber? {base : Nat} {t : Text} (h : baseNumber? base t = some v) :
    v.KeysOnce := by
  unfold baseNumber? at h
  split at h
  next =>
    obtain ⟨u, -, rfl⟩ := Option.map_eq_some_iff.1 h
    exact keysOnce_wholeValue base u
  next => cases h

theorem keysOnce_of_decimalNumber? {word t : Text} (h : decimalNumber? word t = some v) :
    v.KeysOnce := by
  unfold decimalNumber? at h
  dsimp only at h
  split at h
  next => cases h
  split at h
  next =>
    split at h
    next =>
      obtain ⟨u, -, rfl⟩ := Option.map_eq_some_iff.1 h
      exact keysOnce_floatValue u
    next => cases h
  split at h
  next => cases h
  split at h
  next =>
    obtain ⟨u, -, rfl⟩ := Option.map_eq_some_iff.1 h
    exact keysOnce_wholeValue 10 u
  next => cases h

theorem keysOnce_of_number? {word t : Text} (h : number? word t = some v) : v.KeysOnce := by
  have hbase : ∀ base digits, (if t = word then baseNumber? base digits else none) = some v →
      v.KeysOnce := by
    intro base digits hd
    split at hd
    next => exact keysOnce_of_baseNumber? hd
    next => cases hd
  unfold number? at h
  split at h
  next => cases h
  next =>
    obtain rfl := Option.some.inj h
    trivial
  next => exact hbase _ _ h
  next => exact hbase _ _ h
  next => exact hbase _ _ h
  next =>
    split at h
    next => exact keysOnce_of_decimalNumber? h
    split at h
    next =>
      obtain rfl := Option.some.inj h
      trivial
    next => cases h

/-- No word is a table. -/
theorem keysOnce_of_wordValue? {word : Text} (h : wordValue? word = some v) : v.KeysOnce := by
  unfold wordValue? at h
  split at h
  next =>
    obtain rfl := Option.some.inj h
    trivial
  split at h
  next =>
    obtain rfl := Option.some.inj h
    trivial
  split at h
  next =>
    split at h
    next =>
      obtain rfl := Option.some.inj h
      trivial
    next => cases h
  split at h
  next => exact keysOnce_of_number? h
  next => exact keysOnce_of_number? h
  next => exact keysOnce_of_number? h

theorem keysOnce_of_scalar? {s rest : Text} (h : scalar? s = some (v, rest)) : v.KeysOnce := by
  obtain ⟨u, hu, heq⟩ := Option.map_eq_some_iff.1 h
  obtain ⟨rfl, -⟩ := Prod.mk.inj heq
  exact keysOnce_of_wordValue? hu

/-- **A value that is read has no key twice**: a table between braces is made by assignments. -/
theorem keysOnce_of_value? {depth : Nat} {s rest : Text} (h : value? depth s = some (v, rest)) :
    v.KeysOnce := by
  have hstring : (string? s).map (fun p => (Value.text p.1, p.2)) = some (v, rest) →
      v.KeysOnce := by
    intro hs
    obtain ⟨p, -, heq⟩ := Option.map_eq_some_iff.1 hs
    obtain ⟨rfl, -⟩ := Prod.mk.inj heq
    trivial
  cases depth with
  | zero =>
    unfold value? at h
    split at h
    next => exact hstring h
    next => exact hstring h
    next => exact keysOnce_of_scalar? h
  | succ depth =>
    unfold value? at h
    split at h
    next => exact hstring h
    next => exact hstring h
    next =>
      obtain ⟨p, -, heq⟩ := Option.map_eq_some_iff.1 h
      obtain ⟨rfl, -⟩ := Prod.mk.inj heq
      trivial
    next =>
      split at h
      next => cases h
      next list after hlist =>
        obtain ⟨p, hp, heq⟩ := Option.map_eq_some_iff.1 h
        obtain ⟨rfl, -⟩ := Prod.mk.inj heq
        exact keepsKeys_assignAll list _ _ p hp List.nodup_nil
    next => exact keysOnce_of_scalar? h

/-- What a statement assigns has no key twice. -/
def Statement.KeysOnce : Statement → Prop
  | .assignment a => a.value.KeysOnce
  | .header _ _ _ => True

theorem keysOnce_of_header? {s next : Text} {first : Statement}
    (h : header? s = some (first, next)) : first.KeysOnce := by
  have hline : ∀ {after : Text} {listed : Bool} {path : List Text} {key : Text},
      (lineEnd after).map (fun next => (Statement.header listed path key, next)) =
        some (first, next) → first.KeysOnce := by
    intro after listed path key hafter
    obtain ⟨u, -, heq⟩ := Option.map_eq_some_iff.1 hafter
    obtain ⟨rfl, -⟩ := Prod.mk.inj heq
    trivial
  unfold header? at h
  split at h
  next =>
    split at h
    next => exact hline h
    next => cases h
  next =>
    split at h
    next => exact hline h
    next => cases h

theorem keysOnce_of_assignment? {skip : Text → Option Text} {depth : Nat} {a : Assignment}
    {s rest : Text} (h : assignment? skip (value? depth) s = some (a, rest)) :
    a.value.KeysOnce := by
  unfold assignment? at h
  split at h
  next => cases h
  next =>
    split at h
    next =>
      split at h
      next => cases h
      next =>
        obtain ⟨p, hp, heq⟩ := Option.map_eq_some_iff.1 h
        obtain ⟨rfl, -⟩ := Prod.mk.inj heq
        exact keysOnce_of_value? hp
    next => cases h

theorem keysOnce_of_statement? {s next : Text} {first : Statement}
    (h : statement? s = some (first, next)) : first.KeysOnce := by
  unfold statement? at h
  split at h
  next => exact keysOnce_of_header? h
  next =>
    split at h
    next => cases h
    next a rest ha =>
      obtain ⟨u, -, heq⟩ := Option.map_eq_some_iff.1 h
      obtain ⟨rfl, -⟩ := Prod.mk.inj heq
      exact keysOnce_of_assignment? ha

theorem keysOnce_of_statements? {s : Text} {list : List Statement}
    (h : statements? s = some list) : ∀ st ∈ list, st.KeysOnce := by
  induction hlen : s.length using Nat.strongRecOn generalizing s list with
  | ind n ih =>
    rw [statements?] at h
    split at h
    next => cases h
    next =>
      obtain rfl := Option.some.inj h
      exact fun st hst => absurd hst List.not_mem_nil
    next =>
      split at h
      next => cases h
      next first next hfirst =>
        split at h
        next hlt =>
          obtain ⟨more, hmore, rfl⟩ := Option.map_eq_some_iff.1 h
          have hrest := ih next.length (hlen ▸ hlt) hmore rfl
          exact List.forall_mem_cons.2 ⟨keysOnce_of_statement? hfirst, hrest⟩
        next => cases h

/-- The assignments before the first header are statements. -/
theorem keysOnce_arrange {list : List Statement} (h : ∀ st ∈ list, st.KeysOnce) :
    ∀ a ∈ (arrange list).1, a.value.KeysOnce := by
  induction list with
  | nil => exact fun a ha => absurd ha List.not_mem_nil
  | cons first list ih =>
    rw [List.forall_mem_cons] at h
    cases first with
    | assignment a => exact List.forall_mem_cons.2 ⟨h.1, ih h.2⟩
    | header listed path key => exact fun a ha => absurd ha List.not_mem_nil

/-- **A document defines each key once.** -/
theorem keysOnce_of_document? {s : Text} (h : document? s = some entries) : KeysOnce entries := by
  have hempty : KeysOnce [] := ⟨List.nodup_nil, fun e he => absurd he List.not_mem_nil⟩
  unfold document? at h
  split at h
  next => cases h
  next list hlist =>
    split at h
    next => cases h
    next start hstart =>
      have hroot := keysOnce_arrange (keysOnce_of_statements? hlist)
      exact keysOnce_addSections (keysOnce_assignAll hroot hempty hstart) h

end Toml

end SearchClause
