import Mathlib.Data.List.Nodup
import SearchClause.Config.Written
import SearchClause.Proofs.Precedence
import SearchClause.Proofs.TomlDocument

/-!
# Written settings bring themselves about

Settings are written as a document, the document is read as a layer, and the layer is laid over what
is built in. In the middle stands the table that the document describes:

* **writing** — `document?_written`: the text is read as the table `Settings.document`;
* **reading** — `ofEntries?_document`: that table is the layer in which everything is said
  (`Settings.asLayer`);
* **laying over** — such a layer leaves nothing of what is below, except that the dialect `default`
  cannot be taken away.
-/

namespace SearchClause

open Toml
open Text (EndsRun)

/-! ## Lines -/

section

variable {written : Text} {v : Value}

/-- A text that stands for a value at the end of a line. -/
structure Spells (written : Text) (v : Value) : Prop where
  /-- no space comes before the value -/
  starts : ∀ next, EndsRun isSpace (written ++ '\n' :: next)
  /-- the value is read up to the end of the line -/
  read : ∀ next, value? maxNesting (written ++ '\n' :: next) = some (v, '\n' :: next)

theorem spells_writeString (t : Text) : Spells (writeString t) (.text t) := by
  refine ⟨fun next => ?_, fun next => value?_writeString _ (Text.endsRun_cons.2 (by decide))⟩
  obtain ⟨q, w, hw, hq⟩ := writeString_starts t
  rw [hw, List.cons_append, Text.endsRun_cons]
  rcases hq with rfl | rfl <;> decide

theorem spells_writeStrings (list : List Text) :
    Spells (writeStrings list) (.array false (list.map .text)) := by
  refine ⟨fun next => ?_, fun next => value?_writeStrings _ list _⟩
  match list with
  | [] => exact Text.endsRun_cons.2 (by decide)
  | [_] => exact Text.endsRun_cons.2 (by decide)
  | _ :: _ :: _ => exact Text.endsRun_cons.2 (by decide)

/-- A word spells its value. -/
theorem spells_word {word : Text} (hne : word ≠ []) (hword : word.all (!endsWord ·) = true)
    (hv : wordValue? word = some v) : Spells word v := by
  have hchars : ∀ c ∈ word, endsWord c = false := by simpa using hword
  refine ⟨fun next => ?_, value?_word _ hne hchars hv⟩
  obtain ⟨c, w, rfl⟩ := List.exists_cons_of_ne_nil hne
  have hc := hchars c List.mem_cons_self
  simp only [endsWord, Bool.or_eq_false_iff] at hc
  exact Text.endsRun_cons.2 hc.2

theorem spells_writtenBool (b : Bool) : Spells (writtenBool b) (.boolean b) := by
  cases b with
  | false => exact spells_word (by decide) (by decide) rfl
  | true => exact spells_word (by decide) (by decide) rfl

theorem endsWord_of_isDigit {c : Char} (hc : c.isDigit = true) : endsWord c = false := by
  have hne := Text.ne_of_class hc
  simp (disch := decide) [endsWord, isSpace, hne]

theorem spells_ofNat {n : Nat} (hn : n < Nat.pow 2 128) : Spells (Text.ofNat n) (.integer n) := by
  refine spells_word Nat.toDigits_ne_nil (List.all_eq_true.2 fun c hc => ?_) (wordValue?_ofNat hn)
  rw [endsWord_of_isDigit (isDigit_of_mem_ofNat hc)]
  rfl

theorem isLayout_of_isBareKeyChar {c : Char} (hc : isBareKeyChar c = true) :
    isLayout c = false := by
  have hne := Text.ne_of_class hc
  simp (disch := decide) [isLayout, isSpace_of_isBareKeyChar hc, hne]

/-- **A setting is read back from its line.** -/
theorem reads_settingLine (key : Text) (hne : key ≠ []) (hbare : key.all isBareKeyChar = true)
    (h : Spells written v) :
    Reads (settingLine key written) [.assignment (plainAssignment (key, v))] := by
  have hkey := List.all_eq_true.1 hbare
  refine reads_line (by simp [settingLine]) fun next => ?_
  have hline : settingLine key written ++ next =
      key ++ ' ' :: '=' :: ' ' :: (written ++ '\n' :: next) := by
    simp [settingLine]
  have hread := statement?_assignment hne hkey (h.starts next) (h.read next)
  obtain ⟨c, w, rfl⟩ := List.exists_cons_of_ne_nil hne
  rw [hline]
  exact ⟨c, _, skipLayout_cons (isLayout_of_isBareKeyChar (hkey c List.mem_cons_self)), hread⟩

end

/-! ## Headers -/

section

variable {path : List Text} {key : Text}

/-- A header, on the first line or after an empty one. -/
theorem reads_header (front inside : Text) (hfront : front = [] ∨ front = ['\n'])
    (hstart : ∃ c w, inside = c :: w ∧ isBareKeyChar c = true)
    (hkey : ∀ next, key? (inside ++ ']' :: '\n' :: next) =
      some ((path, key), ']' :: '\n' :: next)) :
    Reads (front ++ '[' :: (inside ++ "]\n")) [.header false path key] := by
  obtain ⟨c, w, rfl, hc⟩ := hstart
  refine reads_line (by simp) fun next => ?_
  have htext : front ++ '[' :: (c :: w ++ "]\n") ++ next =
      front ++ '[' :: c :: (w ++ ']' :: '\n' :: next) := by
    simp
  refine ⟨'[', c :: (w ++ ']' :: '\n' :: next), ?_, statement?_header ?_ ?_ (hkey next)⟩
  · have hbracket : ∀ s, skipLayout ('[' :: s) = some ('[' :: s) :=
      fun s => skipLayout_cons (by decide)
    rw [htext]
    rcases hfront with rfl | rfl
    · exact hbracket _
    · exact hbracket _
  · rintro rfl
    exact absurd hc (by decide)
  · exact isSpace_of_isBareKeyChar hc

/-- A key without quotes leads through no other. -/
theorem key?_bare (hne : key ≠ []) (hbare : key.all isBareKeyChar = true) (next : Text) :
    key? (key ++ ']' :: next) = some (([], key), ']' :: next) := by
  have hends : EndsRun isBareKeyChar (']' :: next) := Text.endsRun_cons.2 (by decide)
  have hbracket : skipSpaces (']' :: next) = ']' :: next := skipSpaces_cons (by decide)
  have hread := keys?_last (simpleKey?_bare hne (List.all_eq_true.1 hbare) hends)
    (by rw [hbracket]; simp)
  rw [key?, hread, hbracket]
  rfl

/-- **Any name is read back from below a table.** -/
theorem key?_below (parent : Text) (hne : parent ≠ []) (hbare : parent.all isBareKeyChar = true)
    (name next : Text) :
    key? (parent ++ '.' :: (writeKey name ++ ']' :: next)) =
      some (([parent], name), ']' :: next) := by
  have hends : ∀ s, EndsRun isBareKeyChar (']' :: s) := fun s => Text.endsRun_cons.2 (by decide)
  have hpoint : ∀ s, EndsRun isBareKeyChar ('.' :: s) := fun s => Text.endsRun_cons.2 (by decide)
  have hbracket : skipSpaces (']' :: next) = ']' :: next := skipSpaces_cons (by decide)
  have hlast := keys?_last (simpleKey?_writeKey (hends next) name) (by rw [hbracket]; simp)
  have hfirst := simpleKey?_bare hne (List.all_eq_true.1 hbare)
    (hpoint (writeKey name ++ ']' :: next))
  have hlen : (writeKey name ++ ']' :: next).length <
      (parent ++ '.' :: (writeKey name ++ ']' :: next)).length := by
    simp only [List.length_append, List.length_cons]
    omega
  obtain ⟨c, w, hw, hc⟩ := writeKey_starts name
  rw [hw, List.cons_append] at hfirst hlast hlen ⊢
  rw [key?, keys?_dot hfirst hc hlen, hlast, hbracket]
  rfl

end

/-! ## Writing -/

/-- The table of query settings. -/
def QuerySettings.entries (q : QuerySettings) : Entries :=
  [("sanitize", .boolean q.sanitize), ("max_depth", .integer q.maxDepth),
    ("dialect", .text q.dialect)]

/-- The table of a template. -/
def Template.entries (t : Template) : Entries :=
  [("columns", .array false (t.columns.map .text)), ("operator", .text t.operator),
    ("param", .text t.param.name)]

theorem QuerySettings.reads_written (q : QuerySettings) (h : q.maxDepth < Nat.pow 2 64) :
    Reads q.written (plainSection [] ("query", q.entries)).statements := by
  have hheader : Reads "[query]\n" [.header false [] "query"] :=
    reads_header [] "query" (.inl rfl) ⟨'q', _, rfl, by decide⟩
      fun next => key?_bare (by decide) (by decide) _
  have hsanitize := reads_settingLine "sanitize" (by decide) (by decide)
    (spells_writtenBool q.sanitize)
  have hdepth := reads_settingLine "max_depth" (by decide) (by decide)
    (spells_ofNat (Nat.lt_trans h (by decide)))
  have hdialect := reads_settingLine "dialect" (by decide) (by decide)
    (spells_writeString q.dialect)
  exact ((hheader.append hsanitize).append hdepth).append hdialect

theorem Template.reads_written (name : Text) (t : Template) :
    Reads (t.written name) (plainSection ["dialect"] (name, t.entries)).statements := by
  have hheader : Reads ("\n[dialect." ++ writeKey name ++ "]\n")
      [.header false ["dialect"] name] := by
    refine reads_header ['\n'] ("dialect." ++ writeKey name) (.inr rfl) ⟨'d', _, rfl, by decide⟩
      fun next => ?_
    rw [List.append_assoc]
    exact key?_below "dialect" (by decide) (by decide) name _
  have hcolumns := reads_settingLine "columns" (by decide) (by decide)
    (spells_writeStrings t.columns)
  have hoperator := reads_settingLine "operator" (by decide) (by decide)
    (spells_writeString t.operator)
  have hparam := reads_settingLine "param" (by decide) (by decide)
    (spells_writeString t.param.name)
  exact ((hheader.append hcolumns).append hoperator).append hparam

/-- The sections of dialects: one for each, or one that says that there are none. -/
def Dialects.sections (d : Dialects) : List Section :=
  if d.entries.isEmpty then [plainSection [] ("dialect", [])]
  else d.entries.map fun e => plainSection ["dialect"] (e.1, e.2.entries)

theorem Dialects.reads_written (d : Dialects) :
    Reads d.written (d.sections.flatMap Section.statements) := by
  unfold Dialects.written Dialects.sections
  split
  next =>
    exact reads_header ['\n'] "dialect" (.inr rfl) ⟨'d', _, rfl, by decide⟩
      fun next => key?_bare (by decide) (by decide) _
  next =>
    rw [List.flatMap_map]
    exact reads_flatMap fun e _ => e.2.reads_written e.1

/-- The table of dialects as the document has it. -/
def Dialects.table (d : Dialects) : Value :=
  .table (if d.entries.isEmpty then .header else .implied)
    (d.entries.map fun e => plainTable (e.1, e.2.entries))

/-- What the document of settings says. -/
def Settings.document (s : Settings) : Entries :=
  [plainTable ("query", s.query.entries), ("dialect", s.dialects.table)]

theorem QuerySettings.nodup_keys (q : QuerySettings) : q.entries.keys.Nodup := by
  show ["sanitize".toList, "max_depth".toList, "dialect".toList].Nodup
  decide

theorem Template.nodup_keys (t : Template) : t.entries.keys.Nodup := by
  show ["columns".toList, "operator".toList, "param".toList].Nodup
  decide

/-- Names in order differ from each other. -/
theorem Dialects.nodup_names (d : Dialects) : (d.entries.map Prod.fst).Nodup := by
  refine List.pairwise_map.2 (d.sorted.imp fun {a b} hlt heq => ?_)
  rw [heq, Text.precedes_irrefl] at hlt
  cases hlt

theorem Dialects.addSections_sections (d : Dialects) {front : Entries}
    (hfront : "dialect".toList ∉ front.keys) :
    addSections d.sections front = some (front ++ [("dialect".toList, d.table)]) := by
  unfold Dialects.sections Dialects.table
  by_cases h : d.entries.isEmpty = true
  · rw [if_pos h, if_pos h, List.isEmpty_iff.1 h,
      addSections_top (e := ("dialect".toList, [])) List.nodup_nil hfront]
    rfl
  · have hne : (d.entries.map fun e => (e.1, e.2.entries)) ≠ [] := by simpa using h
    have hkeys : ∀ e ∈ d.entries.map fun e => (e.1, e.2.entries), e.2.keys.Nodup := by
      rintro e he
      obtain ⟨e, -, rfl⟩ := List.mem_map.1 he
      exact e.2.nodup_keys
    have hnames : ((d.entries.map fun e => (e.1, e.2.entries)).map Prod.fst).Nodup := by
      rw [List.map_map]
      exact d.nodup_names
    have hadded := addSections_below hfront hne hkeys hnames
    rw [List.map_map, List.map_map] at hadded
    rw [if_neg h, if_neg h]
    exact hadded

/-- **The document of settings is read as what it says.** -/
theorem Settings.document?_written (s : Settings) (h : s.query.maxDepth < Nat.pow 2 64) :
    document? s.written = some s.document := by
  have hreads : Reads s.written
      ((plainSection [] ("query", s.query.entries) :: s.dialects.sections).flatMap
        Section.statements) :=
    (s.query.reads_written h).append s.dialects.reads_written
  have hmark : dropMark s.written = s.written := rfl
  have hstart : assignAll [] .header [] = some (.header, []) := rfl
  rw [document?, hmark, hreads.statements?_eq]
  simp only [arrange_sections, hstart]
  have hfresh : "dialect".toList ∉ ["query".toList] := by decide
  rw [addSections_top s.query.nodup_keys List.not_mem_nil]
  exact s.dialects.addSections_sections hfresh

/-! ## Reading -/

/-- The layer that says everything about a dialect. -/
def Template.asLayer (t : Template) : DialectLayer :=
  ⟨some t.columns, some t.operator, some t.param⟩

/-- The layer that says everything. -/
def Settings.asLayer (s : Settings) : Layer where
  root := none
  query := some ⟨some s.query.sanitize, some s.query.maxDepth, some s.query.dialect⟩
  dialects := some (s.dialects.entries.map fun e => (e.1, e.2.asLayer))

theorem count?_ofNat {n : Nat} (h : n < Nat.pow 2 64) : Layer.count? (.integer n) = some n := by
  have hfits : (0 : Int) ≤ n ∧ (n : Int) < Int.pow 2 64 :=
    ⟨Int.natCast_nonneg n, Int.ofNat_lt.2 h⟩
  rw [Layer.count?, if_pos hfits, Int.toNat_natCast]

theorem texts?_map_text (list : List Text) :
    Layer.texts? (.array false (list.map .text)) = some list := by
  show (list.map Value.text).mapM Layer.text? = some list
  induction list with
  | nil => rfl
  | cons t list ih => simp [List.mapM_cons, Layer.text?, ih]

theorem query?_entries {q : QuerySettings} (h : q.maxDepth < Nat.pow 2 64) :
    Layer.query? (.table .header q.entries) =
      some ⟨some q.sanitize, some q.maxDepth, some q.dialect⟩ := by
  have hrecord : Layer.isRecord ["sanitize", "max_depth", "dialect"]
      (.table .header q.entries) = true := rfl
  have hsanitize : Layer.field? (.table .header q.entries) "sanitize" 0 =
      some (.boolean q.sanitize) := rfl
  have hdepth : Layer.field? (.table .header q.entries) "max_depth" 1 =
      some (.integer q.maxDepth) := rfl
  have hdialect : Layer.field? (.table .header q.entries) "dialect" 2 =
      some (.text q.dialect) := rfl
  rw [Layer.query?, if_pos hrecord, hsanitize, hdepth, hdialect]
  simp [Layer.optional?, Layer.bool?, Layer.text?, count?_ofNat h]

theorem dialect?_entries (t : Template) :
    Layer.dialect? (.table .header t.entries) = some t.asLayer := by
  have hrecord : Layer.isRecord ["columns", "operator", "param"]
      (.table .header t.entries) = true := rfl
  have hcolumns : Layer.field? (.table .header t.entries) "columns" 0 =
      some (.array false (t.columns.map .text)) := rfl
  have hoperator : Layer.field? (.table .header t.entries) "operator" 1 =
      some (.text t.operator) := rfl
  have hparam : Layer.field? (.table .header t.entries) "param" 2 =
      some (.text t.param.name) := rfl
  rw [Layer.dialect?, if_pos hrecord, hcolumns, hoperator, hparam]
  simp [Layer.optional?, Layer.text?, Layer.style?, texts?_map_text, ParamStyle.ofName?_name,
    Template.asLayer]

theorem named?_tables (list : List (Text × Template)) :
    Layer.named? (list.map fun e => plainTable (e.1, e.2.entries)) =
      some (list.map fun e => (e.1, e.2.asLayer)) := by
  induction list with
  | nil => rfl
  | cons e list ih =>
    rw [List.map_cons, plainTable, Layer.named?, dialect?_entries, ih]
    rfl

/-- **What the document says is the layer that says everything.** -/
theorem ofEntries?_document {s : Settings} (h : s.query.maxDepth < Nat.pow 2 64) :
    Layer.ofEntries? s.document = some s.asLayer := by
  have hvalued : Layer.othersValued ["root", "query", "dialect"] s.document = true := rfl
  have hroot : Entries.get? "root" s.document = none := rfl
  have hquery : Entries.get? "query" s.document =
      some (.table .header s.query.entries) := rfl
  have hdialects : Entries.get? "dialect" s.document = some s.dialects.table := rfl
  have hread : Layer.dialects? s.dialects.table =
      some (s.dialects.entries.map fun e => (e.1, e.2.asLayer)) :=
    named?_tables s.dialects.entries
  rw [Layer.ofEntries?, if_pos hvalued, hroot, hquery, hdialects]
  simp [Layer.optional?, query?_entries h, hread, Settings.asLayer]

/-! ## Laying over -/

namespace Settings

/-- The templates of a layer that says everything are those of the settings. -/
theorem overlayDialects_asLayer (s : Settings) (below : Dialects) :
    overlayDialects s.asLayer below = below.insertAll s.dialects.entries := by
  have htemplates : (s.dialects.entries.map fun e => (e.1, e.2.asLayer)).map
      (fun d => (d.1, d.2.template)) = s.dialects.entries := by
    rw [List.map_map]
    exact List.map_id _
  exact congrArg below.insertAll htemplates

/-- Over the built-in dialect, settings are brought about exactly if they have one of its name. -/
theorem overlay_builtin_eq_iff (s : Settings) :
    overlayDialects s.asLayer builtinDialects = s.dialects ↔
      (s.dialects.get? "default").isSome := by
  have hget (name : Text) : (overlayDialects s.asLayer builtinDialects).get? name =
      (s.dialects.get? name).or (builtinDialects.get? name) := by
    rw [overlayDialects_asLayer]
    exact builtinDialects.get?_insertAll s.dialects.nodup_names name
  constructor
  · intro heq
    have hdefault := hget "default"
    rw [heq, get?_builtinDialects, if_pos rfl] at hdefault
    rw [hdefault]
    cases s.dialects.get? "default" with
    | none => rfl
    | some t => rfl
  · intro hdefault
    refine Dialects.ext_get? fun name => ?_
    rw [hget, get?_builtinDialects]
    split
    next hname =>
      obtain ⟨t, ht⟩ := Option.isSome_iff_exists.1 hdefault
      rw [hname, ht]
      rfl
    next => rw [Option.or_none]

/-- **Written settings bring themselves about.** Whatever the names, columns, operators and the
default dialect are, the document is read as a layer without a word on the search for files. Alone,
that layer has the same query settings, and it has the same dialects exactly if one of them is
`default`, which is built in and cannot be taken away. -/
theorem ofLayers_written (s : Settings) (h : s.query.maxDepth < Nat.pow 2 64) (path : Text) :
    ∃ layer, Layer.ofText? s.written = some layer ∧ layer.root = none ∧
      (ofLayers [⟨path, layer⟩]).query = s.query ∧
      ((ofLayers [⟨path, layer⟩]).dialects = s.dialects ↔
        (s.dialects.get? "default").isSome) := by
  refine ⟨s.asLayer, ?_, rfl, rfl, s.overlay_builtin_eq_iff⟩
  rw [Layer.ofText?, s.document?_written h, Option.bind_some, ofEntries?_document h]

/-- Settings with the largest depth, an empty name and texts that take every form of a string. -/
def manyForms : Settings where
  query := ⟨false, 18446744073709551615, "it's a \"name\""⟩
  dialects := (builtinDialects.insert "" ⟨[], "=", .anonymous⟩).insert "tab\t'\"\x00"
    ⟨["plain", "a\\b", "'\n\"\"", "'''\"\"\"\n\\\x01", "'''\x7f"], "~*", .dollar⟩
  root := none

theorem ofLayers_written_manyForms :
    manyForms.query.maxDepth < Nat.pow 2 64 ∧
      ∃ layer, Layer.ofText? manyForms.written = some layer ∧ layer.root = none ∧
        (ofLayers [⟨"/.sift.toml", layer⟩]).query = manyForms.query ∧
        (ofLayers [⟨"/.sift.toml", layer⟩]).dialects = manyForms.dialects := by
  have hdepth : manyForms.query.maxDepth < Nat.pow 2 64 := by decide
  have hdefault : (manyForms.dialects.get? "default").isSome := by decide
  obtain ⟨layer, hread, hroot, hquery, hdialects⟩ :=
    ofLayers_written manyForms hdepth "/.sift.toml"
  exact ⟨hdepth, layer, hread, hroot, hquery, hdialects.2 hdefault⟩

end Settings

end SearchClause
