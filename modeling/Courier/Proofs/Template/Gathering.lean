import Courier.Proofs.Form.Refusal
import Courier.Proofs.Text.Cut
import Courier.Template.File
import Mathlib.Data.List.Nodup

/-!
# Templates are loaded all or not at all

The list of a document yields its templates if every entry is one and no two have one identifier
(`gather_eq_nil_iff`). Otherwise nothing is loaded, and the lines of the fault are those about the
entries, in the order of the list (`gather_snd`): one for each issue of an entry that is no template
and one for a template whose identifier was there before (`linesAt`). No other entry is named
(`linesAt_ne_nil_iff`).
-/

namespace Courier.Template

open Checked

/-! ## Single templates -/

theorem explained_identifier (v : Value) : (identifier v).Explained := by
  refine (Form.explained_someText v).andThen fun s => ?_
  split
  · exact explained_problem _
  · exact explained_ok _

/-- An entry that is no template has an issue. -/
theorem explained_ofValue (v : Value) : (ofValue v).Explained := by
  refine (Form.explained_ofValue _ v).andThen fun form => ?_
  have id := Form.explained_required form "id" explained_identifier
  have name := Form.explained_field form "name" "" Form.explained_text
  have event := Form.explained_required form "event_type" explained_identifier
  have subject := Form.explained_required form "subject" Form.explained_text
  have html := Form.explained_field form "html_body" "" Form.explained_text
  have plain := Form.explained_field form "text_body" "" Form.explained_text
  have expected := Form.explained_field form "variables" []
    (Form.explained_items Form.explained_text)
  have active := Form.explained_field form "active" true Form.explained_boolean
  exact (((((((id.map _).seq name).seq event).seq subject).seq html).seq plain).seq
    expected).seq active

theorem isBare_of_identifier {v : Value} {s : String} (h : identifier v = .ok s) :
    Text.IsBare s := by
  obtain ⟨given, _, htrim⟩ := andThen_eq_ok_iff.mp h
  split at htrim
  · cases htrim
  · rename_i left
    cases htrim
    exact Text.isBare_trim (by simpa using left)

theorem isBare_of_required {bag : Bag} {name s : String}
    (h : Form.required bag name identifier = .ok s) : Text.IsBare s := by
  unfold Form.required at h
  split at h
  · exact isBare_of_identifier (within_eq_ok_iff.mp h)
  · cases h

/-- The identifier and the event type of a template are bare. -/
theorem isBare_of_ofValue {v : Value} {t : Template} (h : ofValue v = .ok t) :
    Text.IsBare t.id ∧ Text.IsBare t.eventType := by
  obtain ⟨form, _, hall⟩ := andThen_eq_ok_iff.mp h
  obtain ⟨_, _, hseven, _, rfl⟩ := seq_eq_ok_iff.mp hall
  obtain ⟨_, _, hsix, _, rfl⟩ := seq_eq_ok_iff.mp hseven
  obtain ⟨_, _, hfive, _, rfl⟩ := seq_eq_ok_iff.mp hsix
  obtain ⟨_, _, hfour, _, rfl⟩ := seq_eq_ok_iff.mp hfive
  obtain ⟨_, _, hthree, _, rfl⟩ := seq_eq_ok_iff.mp hfour
  obtain ⟨_, _, htwo, hevent, rfl⟩ := seq_eq_ok_iff.mp hthree
  obtain ⟨_, _, hone, _, rfl⟩ := seq_eq_ok_iff.mp htwo
  obtain ⟨_, hid, rfl⟩ := map_eq_ok_iff.mp hone
  exact ⟨isBare_of_required hid, isBare_of_required hevent⟩

/-! ## Gathering the templates of a list -/

/-- The identifiers of the templates among the entries of a list. -/
def idsIn (entries : List Value) : List String :=
  entries.filterMap fun v => (ofValue v).toOption.map Template.id

/-- The lines about the entry at a place: one for each of its issues, or one if it is a template
whose identifier a template before it has. -/
def linesAt (entries : List Value) (i : Nat) : List String :=
  match entries[i]?.map ofValue with
  | some (.wrong issues) => issues.map (entryIssue i)
  | some (.ok t) => if t.id ∈ idsIn (entries.take i) then [repeatedIssue i t.id] else []
  | none => []

/-- An entry that is at fault: it is no template, or its identifier is that of a template before
it. -/
inductive AtFault (entries : List Value) (i : Nat) : Prop
  | invalid {v : Value} {issues : List Issue} (entry : entries[i]? = some v)
      (refused : ofValue v = .wrong issues)
  | repeated {j : Nat} {v w : Value} {t u : Template} (entry : entries[i]? = some v)
      (valid : ofValue v = .ok t) (before : j < i) (earlier : entries[j]? = some w)
      (valid' : ofValue w = .ok u) (same : u.id = t.id)

theorem mem_idsIn_iff {entries : List Value} {id : String} :
    id ∈ idsIn entries ↔ ∃ (v : Value) (t : Template), v ∈ entries ∧ ofValue v = .ok t ∧
      t.id = id := by
  simp only [idsIn, List.mem_filterMap, Option.map_eq_some_iff]
  refine exists_congr fun v => ?_
  cases ofValue v <;> simp [toOption]

/-- The entries with lines about them are those at fault. -/
theorem linesAt_ne_nil_iff {entries : List Value} {i : Nat} :
    linesAt entries i ≠ [] ↔ AtFault entries i := by
  unfold linesAt
  cases hentry : entries[i]? with
  | none =>
    refine iff_of_false (by simp) ?_
    rintro (⟨entry, _⟩ | ⟨entry, _⟩) <;> simp [hentry] at entry
  | some v =>
    cases hv : ofValue v with
    | wrong issues =>
      have : issues ≠ [] := (explained_ofValue v).issues_ne_nil hv
      exact iff_of_true (by simpa [hv] using this) (.invalid hentry hv)
    | ok t =>
      simp only [Option.map_some, hv, ne_eq, ite_eq_right_iff, List.cons_ne_self, imp_false,
        not_not]
      rw [mem_idsIn_iff]
      constructor
      · rintro ⟨w, u, hw, hu, same⟩
        obtain ⟨j, hj⟩ := List.mem_iff_getElem?.mp hw
        rw [List.getElem?_take] at hj
        split at hj
        · rename_i before
          exact .repeated hentry hv before hj hu same
        · cases hj
      · rintro (⟨entry, refused⟩ | ⟨entry, valid, before, earlier, valid', same⟩)
        · cases hentry.symm.trans entry
          cases hv.symm.trans refused
        · cases hentry.symm.trans entry
          cases hv.symm.trans valid
          refine ⟨_, _, ?_, valid', same⟩
          exact List.mem_iff_getElem?.mpr ⟨_, by rw [List.getElem?_take, if_pos before, earlier]⟩

/-- The lines about an entry, by the entries before it. -/
theorem linesAt_append_cons (before rest : List Value) (v : Value) :
    linesAt (before ++ v :: rest) before.length = match ofValue v with
      | .wrong issues => issues.map (entryIssue before.length)
      | .ok t => if t.id ∈ idsIn before then [repeatedIssue before.length t.id] else [] := by
  cases hv : ofValue v <;> simp [linesAt, hv]

/-- The problems are the lines about the entries in turn, if the identifiers seen so far are those
of the templates among the entries so far. -/
theorem gather_snd {seen : List String} {before : List Value}
    (known : ∀ id, id ∈ seen ↔ id ∈ idsIn before) (rest : List Value) :
    (gather seen before.length rest).2 =
      (List.range' before.length rest.length).flatMap (linesAt (before ++ rest)) := by
  -- the entries read so far move over to `before`, one at a time
  induction rest generalizing seen before with
  | nil => simp [gather]
  | cons v rest ih =>
    have later : ∀ {seen' : List String}, (∀ id, id ∈ seen' ↔ id ∈ idsIn (before ++ [v])) →
        (gather seen' (before.length + 1) rest).2 =
          (List.range' (before.length + 1) rest.length).flatMap
            (linesAt (before ++ v :: rest)) := by
      intro seen' known'
      simpa using ih known'
    rw [List.length_cons, List.range'_succ, List.flatMap_cons, linesAt_append_cons]
    cases hv : ofValue v with
    | wrong issues =>
      have same : idsIn (before ++ [v]) = idsIn before := by simp [idsIn, hv, toOption]
      simp [gather, hv, later (by simpa [same] using known)]
    | ok t =>
      have more : idsIn (before ++ [v]) = idsIn before ++ [t.id] := by
        simp [idsIn, hv, toOption]
      by_cases hmem : t.id ∈ seen
      · have known' : ∀ id, id ∈ seen ↔ id ∈ idsIn (before ++ [v]) := by
          intro id
          rw [more, List.mem_append, List.mem_singleton, ← known]
          exact ⟨.inl, fun h => h.elim (fun h => h) (fun h => h ▸ hmem)⟩
        simp [gather, hv, hmem, (known _).mp hmem, later known']
      · have known' : ∀ id, id ∈ t.id :: seen ↔ id ∈ idsIn (before ++ [v]) := by
          intro id
          rw [more, List.mem_append, List.mem_singleton, ← known, List.mem_cons]
          exact or_comm
        simp [gather, hv, hmem, mt (known _).mpr hmem, later known']

/-- Nothing is wrong with a list exactly if its entries are templates with identifiers that are
distinct and new. -/
theorem gather_eq_nil_iff {seen : List String} {index : Nat} {entries : List Value}
    {templates : List Template} : gather seen index entries = (templates, []) ↔
      entries.map ofValue = templates.map .ok ∧ (templates.map Template.id).Nodup ∧
        ∀ t ∈ templates, t.id ∉ seen := by
  induction entries generalizing seen index templates with
  | nil => cases templates <;> simp [gather]
  | cons v rest ih =>
    cases hv : ofValue v with
    | wrong issues =>
      have : issues ≠ [] := (explained_ofValue v).issues_ne_nil hv
      cases templates <;> simp [gather, hv, this]
    | ok t =>
      by_cases hmem : t.id ∈ seen
      · refine iff_of_false (by simp [gather, hv, hmem]) ?_
        rintro ⟨heads, -, fresh⟩
        cases templates with
        | nil => simp at heads
        | cons u us =>
          obtain rfl : t = u := by simpa [hv] using And.left (List.cons_eq_cons.mp heads)
          exact fresh t List.mem_cons_self hmem
      · cases templates with
        | nil => simp [gather, hv, hmem]
        | cons u us =>
          have step : gather seen index (v :: rest) = (u :: us, []) ↔
              t = u ∧ gather (t.id :: seen) (index + 1) rest = (us, []) := by
            simp [gather, hv, hmem, Prod.ext_iff, and_assoc]
          have fresh : (∀ w ∈ us, w.id ∉ t.id :: seen) ↔
              t.id ∉ us.map Template.id ∧ ∀ w ∈ us, w.id ∉ seen := by
            simp [not_or, forall_and]
          rw [step, ih, fresh]
          simp only [List.map_cons, hv, List.cons_eq_cons, Checked.ok.injEq, List.nodup_cons,
            List.forall_mem_cons]
          constructor
          · rintro ⟨rfl, tails, distinct, other, unseen⟩
            exact ⟨⟨rfl, tails⟩, ⟨other, distinct⟩, hmem, unseen⟩
          · rintro ⟨⟨rfl, tails⟩, ⟨other, distinct⟩, -, unseen⟩
            exact ⟨rfl, tails, distinct, other, unseen⟩

/-! ## Loading a document -/

/-- A document with a list of entries under `templates`. -/
def Lists (document : Value) (entries : List Value) : Prop :=
  ∃ bag, document = .dict bag ∧ Bag.getText? bag "templates" = some (.list entries)

theorem listIn?_eq_some_iff {document : Value} {entries : List Value} :
    listIn? document = some entries ↔ Lists document entries := by
  unfold listIn? Lists
  split
  · rename_i bag
    constructor
    · intro h
      refine ⟨bag, rfl, ?_⟩
      split at h
      · rename_i found
        rw [found, Option.some.inj h]
      · cases h
    · rintro ⟨_, hbag, found⟩
      cases hbag
      rw [found]
  · rename_i other
    refine iff_of_false (by simp) ?_
    rintro ⟨bag, rfl, _⟩
    exact other bag rfl

/-- The lines about the entries of a list, in the order of the list. -/
def linesOf (entries : List Value) : List String :=
  (List.range entries.length).flatMap (linesAt entries)

theorem gather_snd_eq_linesOf (entries : List Value) :
    (gather [] 0 entries).2 = linesOf entries := by
  have known : ∀ id : String, id ∈ [] ↔ id ∈ idsIn [] := by simp [idsIn]
  simpa [linesOf, List.range_eq_range'] using gather_snd known entries

example :
    let form (id : String) : Value := .dict [(.text "id", .text id),
      (.text "event_type", .text "offer"), (.text "subject", .text "An offer")]
    linesOf [form " a ", .dict [(.text "id", .text "a")], form "a"] =
      ["templates[1] event_type: Field required", "templates[1] subject: Field required",
        "templates[2]: duplicate template id 'a'"] := by
  decide +kernel

/-- What comes of a document: the templates of its list, or a fault about all of it. -/
structure AllOrNothing (source : String) (document : Value)
    (answer : Except Failure (List Template)) : Prop where
  /-- Templates are returned for a list of which every entry is one and no two have one identifier:
  those of the entries, in order. -/
  returned_iff : ∀ templates, answer = .ok templates ↔ ∃ entries, Lists document entries ∧
    entries.map ofValue = templates.map .ok ∧ (templates.map Template.id).Nodup
  bare : ∀ templates, answer = .ok templates → ∀ t ∈ templates,
    Text.IsBare t.id ∧ Text.IsBare t.eventType
  /-- Any failure is one to load templates; it says that there is no list, or holds the lines. -/
  refused : ∀ failure, answer = .error failure →
    (∀ entries, ¬ Lists document entries) ∧ failure = .templates (.noList source) ∨
      ∃ entries, Lists document entries ∧
        failure = .templates (.unusable source (linesOf entries))
  /-- An entry has lines exactly if it is at fault. -/
  named_iff : ∀ entries, Lists document entries → ∀ i, linesAt entries i ≠ [] ↔ AtFault entries i
  /-- The lines about an entry begin with its place. -/
  placed : ∀ entries i, ∀ line ∈ linesAt entries i, ∃ rest, line = entryName i ++ rest

theorem exists_rest_of_mem_linesAt {entries : List Value} {i : Nat} {line : String}
    (h : line ∈ linesAt entries i) : ∃ rest, line = entryName i ++ rest := by
  unfold linesAt at h
  split at h
  · obtain ⟨issue, _, rfl⟩ := List.mem_map.mp h
    exact ⟨_, by rw [entryIssue, String.append_assoc, String.append_assoc, String.append_assoc]⟩
  · split at h
    · obtain rfl := List.mem_singleton.mp h
      exact ⟨_, by rw [repeatedIssue, String.append_assoc, String.append_assoc]⟩
    · cases h
  · cases h

/-- The list of a document is loaded if nothing is wrong with it. -/
theorem ofDocument_eq_of_lists {source : String} {document : Value} {entries : List Value}
    (list : Lists document entries) : ofDocument source document =
      if linesOf entries = [] then .ok (gather [] 0 entries).1
      else .error (.unusable source (linesOf entries)) := by
  rw [ofDocument, listIn?_eq_some_iff.mpr list, ← gather_snd_eq_linesOf]
  dsimp only
  obtain ⟨templates, problems⟩ := gather [] 0 entries
  cases problems <;> simp

theorem ofDocument_eq_ok_iff {source : String} {document : Value} {templates : List Template} :
    ofDocument source document = .ok templates ↔ ∃ entries, Lists document entries ∧
      entries.map ofValue = templates.map .ok ∧ (templates.map Template.id).Nodup := by
  have loaded : ∀ {entries}, entries.map ofValue = templates.map .ok ∧
      (templates.map Template.id).Nodup ↔ gather [] 0 entries = (templates, []) := by
    intro entries
    simp [gather_eq_nil_iff]
  simp only [loaded]
  constructor
  · intro h
    cases hlist : listIn? document with
    | none => simp [ofDocument, hlist] at h
    | some entries =>
      have list := listIn?_eq_some_iff.mp hlist
      rw [ofDocument_eq_of_lists list] at h
      split at h
      · rename_i none
        exact ⟨entries, list, Prod.ext (Except.ok.inj h) (gather_snd_eq_linesOf entries ▸ none)⟩
      · cases h
  · rintro ⟨entries, list, heq⟩
    rw [ofDocument_eq_of_lists list, ← gather_snd_eq_linesOf, heq]
    rfl

theorem allOrNothing_ofDocument (source : String) (document : Value) :
    AllOrNothing source document ((ofDocument source document).mapError .templates) := by
  have returned : ∀ templates, (ofDocument source document).mapError Failure.templates =
      .ok templates ↔ ofDocument source document = .ok templates := by
    intro templates
    cases ofDocument source document <;> simp [Except.mapError]
  refine ⟨fun templates => (returned templates).trans ofDocument_eq_ok_iff, ?_, ?_,
    fun entries _ i => linesAt_ne_nil_iff, fun entries i line => exists_rest_of_mem_linesAt⟩
  · intro templates h t ht
    obtain ⟨entries, _, valid, _⟩ := ofDocument_eq_ok_iff.mp ((returned templates).mp h)
    have mem : Checked.ok t ∈ entries.map ofValue := valid ▸ List.mem_map_of_mem ht
    obtain ⟨v, _, hv⟩ := List.mem_map.mp mem
    exact isBare_of_ofValue hv
  · intro failure h
    cases hlist : listIn? document with
    | none =>
      refine .inl ⟨fun entries list => ?_, ?_⟩
      · simp [listIn?_eq_some_iff.mpr list] at hlist
      · simpa [ofDocument, hlist, Except.mapError, eq_comm] using h
    | some entries =>
      have list := listIn?_eq_some_iff.mp hlist
      rw [ofDocument_eq_of_lists list] at h
      split at h
      · cases h
      · exact .inr ⟨entries, list, (Except.error.inj h).symm⟩

/-- Templates are loaded all or not at all: a document whose list has only templates with distinct
identifiers yields one for each entry, in order, with identifiers and event types that are bare.
Any other document yields none of them but a failure to load templates, which for a list names in
order every entry that is no template and every template whose identifier was there before, and no
other entry. -/
theorem parse_all_or_nothing {source text : String} {document : Value}
    (read : Yaml.read text = .ok document) :
    AllOrNothing source document (parse source text).answer := by
  have answer : (parse source text).answer =
      (ofDocument source document).mapError .templates := by
    rw [parse, parseWith, Yaml.interpret_of_read read]
    dsimp only
    cases ofDocument source document <;> rfl
  rw [answer]
  exact allOrNothing_ofDocument source document

/-- A list of a template whose identifier is trimmed, an entry that lacks two fields, and a template
with the identifier of the first. -/
def threeEntries : String :=
  "templates:\n- id: ' a '\n  event_type: b\n  subject: c\n- id: a\n" ++
    "- id: a\n  event_type: x\n  subject: y\n"

theorem parse_all_or_nothing_of_threeEntries : ∃ document,
    Yaml.read threeEntries = .ok document ∧
      AllOrNothing "demo.yaml" document (parse "demo.yaml" threeEntries).answer := by
  have readable : (Yaml.read threeEntries).toOption.isSome = true := by decide +kernel
  cases read : Yaml.read threeEntries with
  | error fault => simp [read, Except.toOption] at readable
  | ok document => exact ⟨document, rfl, parse_all_or_nothing read⟩

end Courier.Template
