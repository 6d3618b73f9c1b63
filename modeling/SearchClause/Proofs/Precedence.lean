import Mathlib.Data.List.Forall2
import SearchClause.Config.Settings
import SearchClause.Proofs.TomlKeys

/-!
# The nearest layer wins

Layers are laid over each other from the farthest to the nearest, and what a layer has replaces what
was there. Seen from the result, that is a choice: every setting comes from the first layer that has
it, counted from the nearest one (`firstOf`).

* **query settings** — `foldr_overlayQuery`: one statement for all fields, each chosen on its own;
* **dialects** — `get?_foldr_overlayDialects`: a dialect is chosen as a whole, by its name. The
  names of a layer are the keys of a table, so each occurs once (`namesOnce_of_ofText?`), and the
  order in which the table lists them does not matter;
* **equality** — `Dialects.ext_get?`: dialects with the same templates under the same names are
  equal.
-/

namespace SearchClause

/-! ## Look-up in dialects -/

namespace Dialects

variable {name : Text} {template : Template} {entries entries' : List (Text × Template)}

theorem find?_eq_none (h : ∀ e ∈ entries, e.1 ≠ name) : find? name entries = none := by
  induction entries with
  | nil => rfl
  | cons e rest ih =>
    rw [List.forall_mem_cons] at h
    rw [find?, if_neg h.1, ih h.2]

theorem find?_self (rest : List (Text × Template)) :
    find? name ((name, template) :: rest) = some template :=
  if_pos rfl

theorem find?_of_ne {n : Text} (h : n ≠ name) (rest : List (Text × Template)) :
    find? name ((n, template) :: rest) = find? name rest :=
  if_neg h

/-- A name that comes before all others is none of them. -/
theorem find?_eq_none_of_precedes (h : ∀ e ∈ entries, Text.precedes name e.1 = true) :
    find? name entries = none := by
  refine find?_eq_none fun e he heq => ?_
  have hself := h e he
  rw [heq, Text.precedes_irrefl] at hself
  cases hself

/-- In the order of names, the first of two lists that find the same has no smaller name. -/
theorem not_precedes_head {n n' : Text} {t t' : Template}
    (hsorted : ((n', t') :: entries').Pairwise fun a b => Text.precedes a.1 b.1)
    (h : find? n ((n, t) :: entries) = find? n ((n', t') :: entries')) :
    Text.precedes n n' = false := by
  by_contra hlt
  rw [Bool.not_eq_false] at hlt
  have hnone : find? n ((n', t') :: entries') = none := by
    refine find?_eq_none_of_precedes (List.forall_mem_cons.2 ⟨hlt, fun e he => ?_⟩)
    exact Text.precedes_trans hlt ((List.pairwise_cons.1 hsorted).1 e he)
  rw [find?_self, hnone] at h
  cases h

theorem entries_ext (hsorted : entries.Pairwise fun a b => Text.precedes a.1 b.1)
    (hsorted' : entries'.Pairwise fun a b => Text.precedes a.1 b.1)
    (h : ∀ name, find? name entries = find? name entries') : entries = entries' := by
  induction entries generalizing entries' with
  | nil =>
    cases entries' with
    | nil => rfl
    | cons e rest =>
      have hfirst := h e.1
      rw [find?_self] at hfirst
      cases hfirst
  | cons e rest ih =>
    obtain ⟨n, t⟩ := e
    cases entries' with
    | nil =>
      have hfirst := h n
      rw [find?_self] at hfirst
      cases hfirst
    | cons e' rest' =>
      obtain ⟨n', t'⟩ := e'
      obtain rfl : n = n' := by
        by_contra hne
        have hlt := Text.precedes_connected hne (not_precedes_head hsorted' (h n))
        rw [not_precedes_head hsorted (h n').symm] at hlt
        cases hlt
      have ht := h n
      rw [find?_self, find?_self] at ht
      obtain rfl := Option.some.inj ht
      obtain ⟨hfirst, hrest⟩ := List.pairwise_cons.1 hsorted
      obtain ⟨hfirst', hrest'⟩ := List.pairwise_cons.1 hsorted'
      rw [ih hrest hrest' fun name => ?_]
      by_cases hname : n = name
      · subst hname
        rw [find?_eq_none_of_precedes hfirst, find?_eq_none_of_precedes hfirst']
      · have hfind := h name
        rwa [find?_of_ne hname, find?_of_ne hname] at hfind

/-- **Dialects are determined by what is found in them.** -/
theorem ext_get? {d d' : Dialects} (h : ∀ name, d.get? name = d'.get? name) : d = d' := by
  obtain ⟨entries, hsorted⟩ := d
  obtain ⟨entries', hsorted'⟩ := d'
  obtain rfl := entries_ext hsorted hsorted' h
  rfl

/-- What is inserted together is found, if no name is inserted twice. -/
theorem get?_insertAll (d : Dialects) (h : (entries.map Prod.fst).Nodup) (name : Text) :
    (d.insertAll entries).get? name = (find? name entries).or (d.get? name) := by
  induction entries generalizing d with
  | nil => rfl
  | cons e rest ih =>
    obtain ⟨n, t⟩ := e
    obtain ⟨hn, hrest⟩ := List.nodup_cons.1 h
    rw [insertAll, ih _ hrest, get?_insert]
    by_cases hname : n = name
    · subst hname
      have hnone : find? n rest = none :=
        find?_eq_none fun e he heq => hn (List.mem_map.2 ⟨e, he, heq⟩)
      rw [hnone, if_pos rfl, find?_self]
      rfl
    · rw [if_neg hname, find?_of_ne hname]

end Dialects

/-! ## Layers -/

namespace Layer

/-- The dialects of a layer as they are listed. -/
def listed (l : Layer) : List (Text × DialectLayer) :=
  l.dialects.getD []

/-- What a layer says about the dialect with a name. -/
def definition? (l : Layer) (name : Text) : Option DialectLayer :=
  (l.listed.find? (·.1 = name)).map Prod.snd

/-- A setting for queries, if a layer has it. -/
def setting? (own : QueryLayer → Option α) (l : Layer) : Option α :=
  l.query.bind own

/-- No dialect is named twice. -/
def NamesOnce (l : Layer) : Prop :=
  (l.listed.map Prod.fst).Nodup

instance (l : Layer) : Decidable l.NamesOnce :=
  inferInstanceAs (Decidable (List.Nodup _))

/-- Two layers that say the same and list their dialects in different orders. -/
structure Reordered (l l' : Layer) : Prop where
  /-- the same settings for queries -/
  query : l.query = l'.query
  /-- the same dialects -/
  dialects : l.listed.Perm l'.listed

/-- A layer that has no setting for queries and no dialect. -/
structure SetsNothing (l : Layer) : Prop where
  /-- no setting for queries, with a section for them or without -/
  query : ∀ q ∈ l.query, q = ⟨none, none, none⟩
  /-- no dialect -/
  dialects : l.listed = []

variable {l l' : Layer} {name : Text}

/-- A layer finds the template of its definition. -/
theorem find?_listed (l : Layer) (name : Text) :
    Dialects.find? name (l.listed.map fun d => (d.1, d.2.template)) =
      (l.definition? name).map DialectLayer.template := by
  rw [definition?]
  induction l.listed with
  | nil => rfl
  | cons d rest ih =>
    rw [List.map_cons]
    by_cases hname : d.1 = name
    · rw [hname, Dialects.find?_self, List.find?_cons_of_pos (by simpa using hname)]
      rfl
    · rw [Dialects.find?_of_ne hname, List.find?_cons_of_neg (by simpa using hname), ih]

/-- A definition is an entry, and where no name occurs twice, every entry is a definition. -/
theorem definition?_eq_some_iff (h : l.NamesOnce) {d : DialectLayer} :
    l.definition? name = some d ↔ (name, d) ∈ l.listed := by
  rw [NamesOnce] at h
  rw [definition?]
  generalize l.listed = entries at h ⊢
  induction entries with
  | nil => simp
  | cons e rest ih =>
    obtain ⟨n, d'⟩ := e
    obtain ⟨hn, hrest⟩ := List.nodup_cons.1 h
    by_cases hname : n = name
    · subst hname
      have hnot : (n, d) ∉ rest := fun hmem => hn (List.mem_map.2 ⟨(n, d), hmem, rfl⟩)
      simp [hnot, eq_comm]
    · rw [List.find?_cons_of_neg (by simpa using hname), ih hrest]
      simp [Ne.symm hname]

theorem Reordered.namesOnce (h : Reordered l l') (hl : l.NamesOnce) : l'.NamesOnce :=
  (h.dialects.map Prod.fst).nodup hl

/-- The order of the dialects does not matter to what a layer says about one. -/
theorem Reordered.definition?_eq (h : Reordered l l') (hl : l.NamesOnce) (name : Text) :
    l.definition? name = l'.definition? name := by
  refine Option.ext fun d => ?_
  rw [definition?_eq_some_iff hl, definition?_eq_some_iff (h.namesOnce hl)]
  exact h.dialects.mem_iff

theorem map_fst_of_named? {entries : Toml.Entries} {list : List (Text × DialectLayer)}
    (h : named? entries = some list) : list.map Prod.fst = entries.keys := by
  induction entries generalizing list with
  | nil =>
    obtain rfl := Option.some.inj h
    rfl
  | cons e entries ih =>
    simp only [named?, Option.bind_eq_bind, Option.bind_eq_some_iff, Option.some.injEq] at h
    obtain ⟨first, -, others, hothers, rfl⟩ := h
    exact congrArg (e.1 :: ·) (ih hothers)

theorem nodup_of_dialects? {v : Toml.Value} {list : List (Text × DialectLayer)} (hv : v.KeysOnce)
    (h : dialects? v = some list) : (list.map Prod.fst).Nodup := by
  unfold dialects? at h
  split at h
  next =>
    rw [map_fst_of_named? h]
    exact hv
  next => cases h

/-- **A layer that is read names each dialect once**: its dialects are the keys of a table. -/
theorem namesOnce_of_ofText? {text : Text} (h : ofText? text = some l) : l.NamesOnce := by
  obtain ⟨entries, hentries, hl⟩ := Option.bind_eq_some_iff.1 h
  have honce := Toml.keysOnce_of_document? hentries
  rw [ofEntries?] at hl
  split at hl
  next =>
    simp only [Option.bind_eq_bind, Option.bind_eq_some_iff, Option.some.injEq] at hl
    obtain ⟨root, -, query, -, dialects, hdialects, rfl⟩ := hl
    cases hget : Toml.Entries.get? "dialect" entries with
    | none =>
      rw [hget] at hdialects
      obtain rfl := Option.some.inj hdialects
      exact List.nodup_nil
    | some v =>
      rw [hget] at hdialects
      obtain ⟨list, hlist, rfl⟩ := Option.map_eq_some_iff.1 hdialects
      exact nodup_of_dialects? (honce.values _ (Toml.Entries.mem_of_get? hget)) hlist
  next => cases hl

end Layer

/-! ## Choosing -/

/-- What the first layer has that has it. -/
def firstOf (own : Layer → Option α) (layers : List SourcedLayer) : Option α :=
  layers.findSome? fun l => own l.layer

theorem firstOf_cons (own : Layer → Option α) (l : SourcedLayer) (layers : List SourcedLayer) :
    firstOf own (l :: layers) = (own l.layer).or (firstOf own layers) := by
  rw [firstOf, List.findSome?_cons]
  cases own l.layer with
  | none => rfl
  | some a => rfl

namespace Settings

/-- **A setting for queries comes from the first layer that has it.** -/
theorem foldr_overlayQuery {field : QuerySettings → α} {own : QueryLayer → Option α}
    (hfield : ∀ layer below,
      field (overlayQuery layer below) = (layer.setting? own).getD (field below))
    (layers : List SourcedLayer) (below : QuerySettings) :
    field (layers.foldr (fun l below => overlayQuery l.layer below) below) =
      (firstOf (Layer.setting? own) layers).getD (field below) := by
  induction layers with
  | nil => rfl
  | cons l layers ih =>
    rw [List.foldr_cons, hfield, ih, firstOf_cons]
    cases l.layer.setting? own with
    | none => rfl
    | some a => rfl

/-- What a layer has is laid over what is below, field by field. -/
theorem overlayQuery_eq (layer : Layer) (below : QuerySettings) :
    overlayQuery layer below =
      { sanitize := (layer.setting? QueryLayer.sanitize).getD below.sanitize
        maxDepth := (layer.setting? QueryLayer.maxDepth).getD below.maxDepth
        dialect := (layer.setting? QueryLayer.dialect).getD below.dialect } := by
  simp only [overlayQuery, Layer.setting?]
  cases layer.query with
  | none => rfl
  | some q => rfl

/-- The dialects of a layer come before those below. -/
theorem get?_overlayDialects {layer : Layer} (h : layer.NamesOnce) (below : Dialects)
    (name : Text) :
    (overlayDialects layer below).get? name =
      ((layer.definition? name).map DialectLayer.template).or (below.get? name) := by
  have hnames : ((layer.listed.map fun d => (d.1, d.2.template)).map Prod.fst).Nodup := by
    rw [List.map_map]
    exact h
  rw [← layer.find?_listed]
  exact below.get?_insertAll hnames name

/-- **A dialect comes as a whole from the first layer that names it.** -/
theorem get?_foldr_overlayDialects {layers : List SourcedLayer}
    (h : ∀ l ∈ layers, l.layer.NamesOnce) (below : Dialects) (name : Text) :
    (layers.foldr (fun l below => overlayDialects l.layer below) below).get? name =
      ((firstOf (·.definition? name) layers).map DialectLayer.template).or (below.get? name) := by
  induction layers with
  | nil => rfl
  | cons l layers ih =>
    rw [List.forall_mem_cons] at h
    rw [List.foldr_cons, get?_overlayDialects h.1, ih h.2, firstOf_cons]
    cases l.layer.definition? name with
    | none => rfl
    | some d => rfl

theorem get?_builtinDialects (name : Text) :
    builtinDialects.get? name = if name = "default" then some Template.builtin else none := by
  rw [builtinDialects, Dialects.get?_insert]
  by_cases hname : "default".toList = name
  · rw [if_pos hname, if_pos hname.symm]
  · rw [if_neg hname, if_neg (Ne.symm hname)]
    rfl

/-! ## Layers that make no difference -/

theorem overlayQuery_of_setsNothing {layer : Layer} (h : layer.SetsNothing)
    (below : QuerySettings) : overlayQuery layer below = below := by
  rw [overlayQuery]
  cases hq : layer.query with
  | none => rfl
  | some q =>
    obtain rfl := h.query q hq
    rfl

theorem overlayDialects_of_setsNothing {layer : Layer} (h : layer.SetsNothing) (below : Dialects) :
    overlayDialects layer below = below := by
  have hnone : layer.dialects.getD [] = [] := h.dialects
  rw [overlayDialects, hnone]
  rfl

theorem ofLayers_insert {l : SourcedLayer} (h : l.layer.SetsNothing)
    (before after : List SourcedLayer) :
    (ofLayers (before ++ l :: after)).query = (ofLayers (before ++ after)).query ∧
      (ofLayers (before ++ l :: after)).dialects = (ofLayers (before ++ after)).dialects := by
  simp only [ofLayers, List.foldr_append, List.foldr_cons, overlayQuery_of_setsNothing h,
    overlayDialects_of_setsNothing h, and_self]

theorem overlayQuery_reordered {l l' : Layer} (h : l.Reordered l') (below : QuerySettings) :
    overlayQuery l' below = overlayQuery l below := by
  rw [overlayQuery, overlayQuery, h.query]

theorem overlayDialects_reordered {l l' : Layer} (h : l.Reordered l') (hl : l.NamesOnce)
    (below : Dialects) : overlayDialects l' below = overlayDialects l below := by
  refine Dialects.ext_get? fun name => ?_
  rw [get?_overlayDialects (h.namesOnce hl), get?_overlayDialects hl, h.definition?_eq hl]

theorem ofLayers_reordered {layers layers' : List SourcedLayer}
    (h : List.Forall₂ (fun l l' => l.layer.Reordered l'.layer) layers layers')
    (honce : ∀ l ∈ layers, l.layer.NamesOnce) :
    (ofLayers layers').query = (ofLayers layers).query ∧
      (ofLayers layers').dialects = (ofLayers layers).dialects := by
  simp only [ofLayers]
  induction h with
  | nil => exact ⟨rfl, rfl⟩
  | cons hl _ ih =>
    rw [List.forall_mem_cons] at honce
    obtain ⟨hquery, hdialects⟩ := ih honce.2
    simp only [List.foldr_cons]
    rw [hquery, hdialects]
    exact ⟨overlayQuery_reordered hl _, overlayDialects_reordered hl honce.1 _⟩

/-- **The nearest layer wins.** Each setting for queries is that of the first layer that has it, or
else the built-in one. A dialect is, as a whole, that of the first layer that names it; only
`default` is built in, so it is always there. The order in which a layer lists its dialects does not
matter, and neither does a layer that sets nothing, wherever it comes. The layers name no dialect
twice, as no layer does that is read from a text. -/
theorem ofLayers_first_wins (layers : List SourcedLayer) (h : ∀ l ∈ layers, l.layer.NamesOnce) :
    (ofLayers layers).query.sanitize =
        (firstOf (Layer.setting? QueryLayer.sanitize) layers).getD true ∧
      (ofLayers layers).query.maxDepth =
        (firstOf (Layer.setting? QueryLayer.maxDepth) layers).getD 64 ∧
      (ofLayers layers).query.dialect =
        (firstOf (Layer.setting? QueryLayer.dialect) layers).getD "default" ∧
      (∀ name, (ofLayers layers).dialects.get? name =
        ((firstOf (·.definition? name) layers).map DialectLayer.template).or
          (if name = "default" then some Template.builtin else none)) ∧
      ((ofLayers layers).dialects.get? "default").isSome ∧
      (∀ layers', List.Forall₂ (fun l l' => l.layer.Reordered l'.layer) layers layers' →
        (ofLayers layers').query = (ofLayers layers).query ∧
          (ofLayers layers').dialects = (ofLayers layers).dialects) ∧
      (∀ before after l, layers = before ++ after → l.layer.SetsNothing →
        (ofLayers (before ++ l :: after)).query = (ofLayers layers).query ∧
          (ofLayers (before ++ l :: after)).dialects = (ofLayers layers).dialects) ∧
      ∀ text layer, Layer.ofText? text = some layer → layer.NamesOnce := by
  have hget (name : Text) : (ofLayers layers).dialects.get? name =
      ((firstOf (·.definition? name) layers).map DialectLayer.template).or
        (if name = "default" then some Template.builtin else none) := by
    rw [← get?_builtinDialects]
    exact get?_foldr_overlayDialects h builtinDialects name
  refine ⟨?_, ?_, ?_, hget, ?_, ?_, ?_, fun text layer => Layer.namesOnce_of_ofText?⟩
  · refine foldr_overlayQuery (fun layer below => ?_) layers .builtin
    rw [overlayQuery_eq]
  · refine foldr_overlayQuery (fun layer below => ?_) layers .builtin
    rw [overlayQuery_eq]
  · refine foldr_overlayQuery (fun layer below => ?_) layers .builtin
    rw [overlayQuery_eq]
  · rw [hget, if_pos rfl]
    cases firstOf (·.definition? "default") layers with
    | none => rfl
    | some d => rfl
  · intro layers' hreordered
    exact ofLayers_reordered hreordered h
  · rintro before after l rfl hnothing
    exact ofLayers_insert hnothing before after

/-- A near layer and a far one with a dialect of the same name. -/
def nearAndFar : List SourcedLayer :=
  [⟨"/work/.sift.toml", none, some ⟨none, some 8, none⟩,
      some [("pg", ⟨some ["name"], none, some .dollar⟩), ("genes", ⟨some ["symbol"], none, none⟩)]⟩,
    ⟨"/.sift.toml", none, some ⟨some false, some 32, none⟩,
      some [("genes", ⟨some ["x", "y"], some "=", some .named⟩)]⟩]

/-- The near layer has no operator for the dialect and does not take it from the far one. -/
theorem ofLayers_first_wins_nearAndFar :
    (∀ l ∈ nearAndFar, l.layer.NamesOnce) ∧
      (ofLayers nearAndFar).query.sanitize = false ∧ (ofLayers nearAndFar).query.maxDepth = 8 ∧
      (ofLayers nearAndFar).query.dialect = "default" ∧
      (ofLayers nearAndFar).dialects.get? "genes" = some ⟨["symbol"], "LIKE", .numbered⟩ ∧
      (ofLayers nearAndFar).dialects.get? "default" = some ⟨["value"], "LIKE", .numbered⟩ := by
  have honce : ∀ l ∈ nearAndFar, l.layer.NamesOnce := by decide
  obtain ⟨hsanitize, hdepth, hdialect, hget, -⟩ := ofLayers_first_wins nearAndFar honce
  exact ⟨honce, hsanitize, hdepth, hdialect, hget "genes", hget "default"⟩

end Settings

end SearchClause
