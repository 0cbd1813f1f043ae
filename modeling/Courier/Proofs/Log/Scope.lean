import Courier.Log.Line
import Courier.Log.Scope

/-!
# Nested scopes

Acts are properly nested if each closes what was opened last. `opened?` follows the scopes that are
open, and acts that leave none open are `Unwound`.

Closing a scope restores what was in force when it was opened (`Scope.run_closed`), since acts that
are unwound leave alone what is to be restored. Until something is cleared, what is in force is what
the open scopes give, the innermost first (`Scope.get?_run`). A record that a handler stamps carries
its own fields, and those in force that it does not have itself (`get?_stamped`).

`Scope.scopes_restore` puts these together. Acts that are unwound need not restore what was in force
before them: a clearing outside all of their scopes stays (`Scope.clearing_stays`).
-/

namespace Courier.Log

/-! ## Fields -/

namespace Fields

theorem get?_cons (f : String × Value) (fields : Fields) (name : String) :
    get? (f :: fields) name = if f.1 = name then some f.2 else get? fields name := by
  by_cases h : f.1 = name <;> simp [get?, h]

theorem get?_append (fields more : Fields) (name : String) :
    get? (fields ++ more) name = (get? fields name).or (get? more name) := by
  rw [get?, List.find?_append, Option.map_or]
  rfl

theorem isSome_get? (fields : Fields) (name : String) :
    (get? fields name).isSome = has fields name := by
  rw [get?, Option.isSome_map, List.isSome_find?, has]

theorem get?_put (fields : Fields) (name other : String) (v : Value) :
    get? (put fields name v) other = if name = other then some v else get? fields other := by
  split
  · rename_i same
    rw [← same, get?_put_self]
  · rename_i apart
    exact get?_put_of_ne fields v apart

theorem addMissing_cons (fields : Fields) (f : String × Value) (scope : Fields) :
    addMissing fields (f :: scope) =
      addMissing (if has fields f.1 then fields else fields ++ [f]) scope := rfl

/-- Fields that are there already stay as they are. -/
theorem get?_addMissing (fields scope : Fields) (name : String) :
    get? (addMissing fields scope) name = (get? fields name).or (get? scope name) := by
  induction scope generalizing fields with
  | nil => simp [Option.or_none]
  | cons f scope ih =>
    rw [addMissing_cons, ih, get?_cons]
    split
    · rename_i present
      split
      · rename_i same
        rw [← isSome_get?, same] at present
        obtain ⟨v, hv⟩ := Option.isSome_iff_exists.mp present
        rw [hv, Option.some_or, Option.some_or]
      · rfl
    · rw [get?_append, get?_cons, Option.or_assoc]
      split
      · rw [Option.some_or]
      · rw [get?_nil, Option.none_or]

/-- Of fields set over others, the last counts. -/
theorem get?_merge (fields more : Fields) (name : String) :
    get? (merge fields more) name = (get? more.reverse name).or (get? fields name) := by
  induction more generalizing fields with
  | nil => rfl
  | cons f more ih =>
    have first : merge fields (f :: more) = merge (fields.put f.1 f.2) more := rfl
    rw [first, ih, List.reverse_cons, get?_append, get?_cons, get?_put, Option.or_assoc]
    split
    · rw [Option.some_or]
    · rw [get?_nil, Option.none_or]

theorem get?_filter {keeps : String → Bool} {name : String} (h : keeps name = true)
    (fields : Fields) : get? (fields.filter fun f => keeps f.1) name = get? fields name := by
  induction fields with
  | nil => rfl
  | cons f fields ih =>
    rw [List.filter_cons, get?_cons]
    split
    · rw [get?_cons, ih]
    · rename_i dropped
      have apart : f.1 ≠ name := by
        rintro rfl
        exact dropped h
      rw [ih, if_neg apart]

end Fields

/-- A field of a stamped record is its own, or one in force that a scope may set. -/
theorem get?_stamped (service environment : String) (scope fields : Fields) {name : String}
    (hs : name ≠ "service") (he : name ≠ "environment") :
    Fields.get? (stamped service environment scope fields) name =
      (Fields.get? fields name).or (Fields.get? (scope.filter fun f => isSettable f.1) name) := by
  rw [stamped, Fields.get?_addMissing, Fields.get?_put_of_ne _ _ he.symm,
    Fields.get?_put_of_ne _ _ hs.symm]

namespace Scope

/-! ## What a scope gives -/

/-- The value that a scope gives a field: the last that is not absent. -/
def given? (more : Fields) (name : String) : Option Value :=
  Fields.get? (more.filter fun f => !isAbsent f.2).reverse name

theorem get?_extended (fields more : Fields) (name : String) :
    Fields.get? (extended fields more) name = (given? more name).or (Fields.get? fields name) := by
  rw [extended, Fields.get?_merge, given?]

/-! ## Proper nesting -/

/-- The scopes open after an act, innermost first; none are left to tell if the act closes what was
not opened last. -/
def openedBy : List (Opening × Fields) → Act → Option (List (Opening × Fields))
  | scopes, .opening how more => some ((how, more) :: scopes)
  | [], .closing _ => none
  | (how', _) :: scopes, .closing how => if how = how' then some scopes else none
  | scopes, .clear => some scopes

/-- The scopes open after several acts. -/
def opened? (scopes : List (Opening × Fields)) (acts : List Act) :
    Option (List (Opening × Fields)) := acts.foldlM openedBy scopes

/-- Whether acts close all that they open, in reverse order. -/
abbrev Unwound (acts : List Act) : Prop := opened? [] acts = some []

/-- Whether nothing is cleared outside of all scopes. -/
def Sheltered (scopes : List (Opening × Fields)) (acts : List Act) : Prop :=
  ∀ before after, acts = before ++ .clear :: after → opened? scopes before ≠ some []

variable {scope : Scope} {act : Act} {acts : List Act} {scopes scopes' : List (Opening × Fields)}

theorem opened?_cons : opened? scopes (act :: acts) = some scopes' ↔
    ∃ between, openedBy scopes act = some between ∧ opened? between acts = some scopes' :=
  Option.bind_eq_some_iff

theorem opened?_append {more : List Act} : opened? scopes (acts ++ more) = some scopes' ↔
    ∃ between, opened? scopes acts = some between ∧ opened? between more = some scopes' := by
  rw [opened?, List.foldlM_append]
  exact Option.bind_eq_some_iff

theorem opened?_singleton : opened? scopes [act] = openedBy scopes act := by
  simp [opened?]

theorem openedBy_closing_eq_some_iff {how : Opening} : openedBy scopes (.closing how) =
    some scopes' ↔ ∃ more, scopes = (how, more) :: scopes' := by
  rcases scopes with _ | ⟨⟨how', more⟩, scopes⟩
  · simp [openedBy]
  · by_cases same : how = how' <;> simp [openedBy, same, eq_comm]

theorem openedBy_append (h : openedBy scopes act = some scopes')
    (below : List (Opening × Fields)) :
    openedBy (scopes ++ below) act = some (scopes' ++ below) := by
  cases act with
  | opening how more =>
    cases h
    rfl
  | closing how =>
    obtain ⟨more, rfl⟩ := openedBy_closing_eq_some_iff.mp h
    exact openedBy_closing_eq_some_iff.mpr ⟨more, rfl⟩
  | clear =>
    cases h
    cases scopes <;> cases below <;> rfl

/-- Properly nested acts do not look at the scopes below theirs. -/
theorem opened?_below (h : opened? scopes acts = some scopes')
    (below : List (Opening × Fields)) :
    opened? (scopes ++ below) acts = some (scopes' ++ below) := by
  induction acts generalizing scopes with
  | nil =>
    cases h
    rfl
  | cons act acts ih =>
    obtain ⟨between, hact, hacts⟩ := opened?_cons.mp h
    exact opened?_cons.mpr ⟨_, openedBy_append hact below, ih hacts⟩

/-- What is open was opened by an act after which all that was opened has been closed. -/
theorem exists_opening {how : Opening} {more : Fields}
    (h : opened? [] acts = some ((how, more) :: scopes)) :
    ∃ earlier inner, acts = earlier ++ .opening how more :: inner ∧
      opened? [] earlier = some scopes ∧ Unwound inner := by
  induction hlength : acts.length using Nat.strongRecOn generalizing acts how more scopes with
  | ind n ih =>
    subst hlength
    rcases acts.eq_nil_or_concat with rfl | ⟨before, act, rfl⟩
    · simp [opened?] at h
    · rw [List.concat_eq_append] at h ih ⊢
      obtain ⟨between, hbefore, hlast⟩ := opened?_append.mp h
      rw [opened?_singleton] at hlast
      cases act with
      | opening how' more' =>
        obtain ⟨⟨rfl, rfl⟩, rfl⟩ : (how' = how ∧ more' = more) ∧ between = scopes := by
          simpa [openedBy] using hlast
        exact ⟨before, [], rfl, hbefore, rfl⟩
      | clear =>
        obtain rfl : between = (how, more) :: scopes := by
          exact Option.some.inj (hlast.symm.trans (by cases between <;> rfl)).symm
        obtain ⟨earlier, inner, rfl, hearlier, hinner⟩ := ih _ (by simp) hbefore rfl
        exact ⟨earlier, inner ++ [.clear], by simp, hearlier,
          opened?_append.mpr ⟨[], hinner, rfl⟩⟩
      | closing how' =>
        -- The scope that this act closes was opened later, so that its opening and its closing
        -- belong to what is unwound.
        obtain ⟨more', rfl⟩ := openedBy_closing_eq_some_iff.mp hlast
        obtain ⟨middle, inner', rfl, hmiddle, hinner'⟩ := ih _ (by simp) hbefore rfl
        obtain ⟨earlier, inner, rfl, hearlier, hinner⟩ :=
          ih middle.length (by simp) hmiddle rfl
        have closed : opened? [(how', more')] (inner' ++ [.closing how']) = some [] :=
          opened?_append.mpr ⟨[(how', more')], opened?_below hinner' _, by simp [opened?, openedBy]⟩
        exact ⟨earlier, inner ++ .opening how' more' :: (inner' ++ [.closing how']), by simp,
          hearlier, opened?_append.mpr ⟨[], hinner, opened?_cons.mpr ⟨_, rfl, closed⟩⟩⟩

theorem Sheltered.tail {between : List (Opening × Fields)} (h : Sheltered scopes (act :: acts))
    (hact : openedBy scopes act = some between) : Sheltered between acts := by
  rintro before after rfl hbefore
  exact h (act :: before) after rfl (opened?_cons.mpr ⟨between, hact, hbefore⟩)

theorem Sheltered.cons {between : List (Opening × Fields)} (h : Sheltered between acts)
    (hact : openedBy scopes act = some between) (inside : act = .clear → scopes ≠ []) :
    Sheltered scopes (act :: acts) := by
  intro before after hsplit hbefore
  rcases before with _ | ⟨first, before⟩
  · obtain ⟨rfl, rfl⟩ := List.cons.inj hsplit
    cases hbefore
    exact inside rfl rfl
  · obtain ⟨rfl, rfl⟩ := List.cons.inj hsplit
    obtain ⟨between', hact', hbefore⟩ := opened?_cons.mp hbefore
    obtain rfl : between = between' := Option.some.inj (hact.symm.trans hact')
    exact h before after rfl hbefore

/-! ## Blocks -/

/-- Whether no block begins again before its end. -/
def BeginsAfresh (scope : Scope) (acts : List Act) : Prop :=
  ∀ before how more after, acts = before ++ .opening how more :: after →
    (scope.run before).IsFree how

theorem run_append (scope : Scope) (acts more : List Act) :
    scope.run (acts ++ more) = (scope.run acts).run more := List.foldl_append

theorem beginsAfresh_append {more : List Act} : scope.BeginsAfresh (acts ++ more) ↔
    scope.BeginsAfresh acts ∧ (scope.run acts).BeginsAfresh more := by
  constructor
  · refine fun h => ⟨?_, ?_⟩
    · rintro before how fields after rfl
      exact h before how fields (after ++ more) (by simp)
    · rintro before how fields after rfl
      rw [← run_append]
      exact h (acts ++ before) how fields after (by simp)
  · rintro ⟨first, second⟩ before how fields after split
    obtain ⟨rest, rfl, hrest⟩ | ⟨rest, rfl, hrest⟩ := List.append_eq_append_iff.mp split
    · rw [run_append]
      exact second rest how fields after hrest
    · rcases rest with _ | ⟨act, rest⟩
      · simpa [run] using second [] how fields after hrest.symm
      · obtain ⟨rfl, -⟩ := List.cons.inj hrest
        exact first before how fields rest rfl

theorem BeginsAfresh.head {how : Opening} {more : Fields}
    (h : scope.BeginsAfresh (.opening how more :: acts)) : scope.IsFree how :=
  h [] how more acts rfl

theorem BeginsAfresh.tail (h : scope.BeginsAfresh (act :: acts)) :
    (scope.after act).BeginsAfresh acts := by
  have split : scope.BeginsAfresh ([act] ++ acts) := h
  exact (beginsAfresh_append.mp split).2

/-! ## What is restored -/

/-- Whether closing the open scopes, innermost first, leaves a scope, each of them having something
to restore. -/
def Unwinds (base : Scope) : Scope → List (Opening × Fields) → Prop
  | scope, [] => scope = base
  | scope, (how, _) :: scopes => scope.Restores how ∧ Unwinds base (scope.closed how) scopes

variable {base : Scope}

/-- An act does not change what the open scopes restore, unless it clears outside of all scopes. -/
theorem unwinds_after (h : openedBy scopes act = some scopes') (unwinds : Unwinds base scope scopes)
    (afresh : scope.BeginsAfresh (act :: acts)) (inside : act = .clear → scopes ≠ []) :
    Unwinds base (scope.after act) scopes' := by
  cases act with
  | opening how more =>
    cases h
    refine ⟨restores_opened scope how more, ?_⟩
    rw [after, closed_opened afresh.head]
    exact unwinds
  | closing how =>
    obtain ⟨more, rfl⟩ := openedBy_closing_eq_some_iff.mp h
    exact unwinds.2
  | clear =>
    obtain _ | ⟨⟨how, more⟩, scopes⟩ := scopes
    · exact absurd rfl (inside rfl)
    · cases h
      refine ⟨?_, ?_⟩
      · cases how <;> exact unwinds.1
      · rw [after, closed_clear unwinds.1]
        exact unwinds.2

theorem unwinds_run (nested : opened? scopes acts = some scopes')
    (unwinds : Unwinds base scope scopes) (afresh : scope.BeginsAfresh acts)
    (sheltered : Sheltered scopes acts) : Unwinds base (scope.run acts) scopes' := by
  induction acts generalizing scope scopes with
  | nil =>
    cases nested
    exact unwinds
  | cons act acts ih =>
    obtain ⟨between, hact, hacts⟩ := opened?_cons.mp nested
    have inside : act = .clear → scopes ≠ [] := by
      rintro rfl rfl
      exact sheltered [] acts rfl rfl
    exact ih hacts (unwinds_after hact unwinds afresh inside) afresh.tail (sheltered.tail hact)

theorem run_of_sheltered (unwound : Unwound acts) (afresh : scope.BeginsAfresh acts)
    (sheltered : Sheltered [] acts) : scope.run acts = scope :=
  unwinds_run unwound rfl afresh sheltered

theorem run_of_not_sheltered (unwound : Unwound acts) (afresh : scope.BeginsAfresh acts)
    (open' : ¬Sheltered [] acts) : scope.run acts = scope.clear := by
  induction hlength : acts.length using Nat.strongRecOn generalizing acts scope with
  | ind n ih =>
    subst hlength
    obtain ⟨before, after, rfl, hbefore⟩ :
        ∃ before after, acts = before ++ .clear :: after ∧ opened? [] before = some [] := by
      simpa [Sheltered] using open'
    have hafter : Unwound after := by
      obtain ⟨between, h, hclear⟩ := opened?_append.mp unwound
      obtain rfl : [] = between := Option.some.inj (hbefore.symm.trans h)
      exact hclear
    obtain ⟨afreshBefore, afreshRest⟩ := beginsAfresh_append.mp afresh
    have cleared : (scope.run before).clear = scope.clear := by
      by_cases h : Sheltered [] before
      · rw [run_of_sheltered hbefore afreshBefore h]
      · rw [ih _ (by simp) hbefore afreshBefore h rfl]
        rfl
    have afreshAfter : scope.clear.BeginsAfresh after := cleared ▸ afreshRest.tail
    have split : scope.run (before ++ .clear :: after) = (scope.run before).clear.run after :=
      run_append scope before (.clear :: after)
    rw [split, cleared]
    by_cases h : Sheltered [] after
    · exact run_of_sheltered hafter afreshAfter h
    · rw [ih _ (by simp; omega) hafter afreshAfter h rfl]
      rfl

/-- Nothing between the opening and the closing of a scope is outside of it. -/
theorem sheltered_block (how : Opening) (more : Fields) (unwound : Unwound acts) :
    Sheltered [] (.opening how more :: (acts ++ [.closing how])) := by
  refine @Sheltered.cons _ _ _ [(how, more)] ?_ rfl (by simp)
  intro before after hsplit hbefore
  obtain ⟨rest, rfl⟩ : ∃ rest, acts = before ++ rest := by
    obtain ⟨rest, -, hlast⟩ | ⟨rest, h, -⟩ := List.append_eq_append_iff.mp hsplit
    · rcases rest with _ | ⟨first, rest⟩ <;> simp at hlast
    · exact ⟨rest, h⟩
  obtain ⟨between, h, -⟩ := opened?_append.mp unwound
  have below := opened?_below h [(how, more)]
  rw [List.nil_append, hbefore] at below
  simp at below

/-- Closing a scope restores what was in force before it was opened. -/
theorem run_closed (how : Opening) (more : Fields) (unwound : Unwound acts)
    (afresh : scope.BeginsAfresh (.opening how more :: (acts ++ [.closing how]))) :
    scope.run (.opening how more :: (acts ++ [.closing how])) = scope := by
  have closed : Unwound (.opening how more :: (acts ++ [.closing how])) :=
    opened?_cons.mpr ⟨_, rfl, opened?_append.mpr
      ⟨[(how, more)], opened?_below unwound _, by simp [opened?, openedBy]⟩⟩
  exact run_of_sheltered closed afresh (sheltered_block how more unwound)

/-! ## What is in force -/

/-- Whether the fields in force are those that the open scopes put over the fields of another scope,
the innermost last. -/
def Layers (base : Scope) : Scope → List (Opening × Fields) → Prop
  | scope, [] => scope.fields = base.fields
  | scope, (how, more) :: scopes =>
    scope.fields = extended (scope.closed how).fields more ∧ Layers base (scope.closed how) scopes

theorem layers_after (h : openedBy scopes act = some scopes') (layers : Layers base scope scopes)
    (afresh : scope.BeginsAfresh (act :: acts)) (kept : act ≠ .clear) :
    Layers base (scope.after act) scopes' := by
  cases act with
  | opening how more =>
    cases h
    have put : (scope.opened how more).fields = extended scope.fields more := by
      cases how <;> rfl
    rw [after, Layers, closed_opened afresh.head]
    exact ⟨put, layers⟩
  | closing how =>
    obtain ⟨more, rfl⟩ := openedBy_closing_eq_some_iff.mp h
    exact layers.2
  | clear => exact absurd rfl kept

/-- Until something is cleared, only the scopes that are open matter. -/
theorem layers_run (nested : opened? scopes acts = some scopes')
    (layers : Layers base scope scopes) (afresh : scope.BeginsAfresh acts)
    (kept : ∀ act ∈ acts, act ≠ .clear) : Layers base (scope.run acts) scopes' := by
  induction acts generalizing scope scopes with
  | nil =>
    cases nested
    exact layers
  | cons act acts ih =>
    obtain ⟨between, hact, hacts⟩ := opened?_cons.mp nested
    rw [List.forall_mem_cons] at kept
    exact ih hacts (layers_after hact layers afresh kept.1) afresh.tail kept.2

theorem get?_of_layers (layers : Layers base scope scopes) (name : String) :
    Fields.get? scope.fields name =
      (scopes.findSome? fun s => given? s.2 name).or (Fields.get? base.fields name) := by
  induction scopes generalizing scope with
  | nil => rw [layers, List.findSome?_nil, Option.none_or]
  | cons s scopes ih =>
    rw [layers.1, get?_extended, ih layers.2, List.findSome?_cons, ← Option.or_assoc]
    cases given? s.2 name <;> rfl

/-- In a scope in which nothing has been cleared, an open scope gives a field its value unless one
inside it does. -/
theorem get?_run (nested : opened? [] acts = some scopes) (afresh : scope.BeginsAfresh acts)
    (kept : ∀ act ∈ acts, act ≠ .clear) (name : String) :
    Fields.get? (scope.run acts).fields name =
      (scopes.findSome? fun s => given? s.2 name).or (Fields.get? scope.fields name) :=
  get?_of_layers (layers_run nested rfl afresh kept) name

/-- What properly nested acts restore and put in force, if no block begins again before its end.
Each closing restores what was in force at the matching opening, so that acts that are unwound end
where they began, unless they clear outside of all their scopes: then nothing is in force. Where
nothing is cleared, a field has the value that the innermost open scope gives it, and a record has
its own fields and those in force. -/
theorem scopes_restore (service environment : String) (scope : Scope) (acts : List Act)
    (scopes : List (Opening × Fields)) (nested : opened? [] acts = some scopes)
    (afresh : scope.BeginsAfresh acts) :
    (∀ before how after, acts = before ++ .closing how :: after →
      ∃ earlier more inner, before = earlier ++ .opening how more :: inner ∧ Unwound inner ∧
        scope.run (before ++ [.closing how]) = scope.run earlier) ∧
    (scopes = [] → Sheltered [] acts → scope.run acts = scope) ∧
    (scopes = [] → ¬Sheltered [] acts → scope.run acts = scope.clear) ∧
    ((∀ act ∈ acts, act ≠ .clear) → ∀ name, Fields.get? (scope.run acts).fields name =
      (scopes.findSome? fun s => given? s.2 name).or (Fields.get? scope.fields name)) ∧
    ∀ fields name, isSettable name = true → name ≠ "service" → name ≠ "environment" →
      Fields.get? (stamped service environment (scope.run acts).fields fields) name =
        (Fields.get? fields name).or (Fields.get? (scope.run acts).fields name) := by
  refine ⟨?restores, ?_, ?_, get?_run nested afresh, fun fields name settable hs he => ?_⟩
  case restores =>
    rintro before how after rfl
    obtain ⟨between, hbefore, hrest⟩ := opened?_append.mp nested
    obtain ⟨_, hclosing, -⟩ := opened?_cons.mp hrest
    obtain ⟨more, rfl⟩ := openedBy_closing_eq_some_iff.mp hclosing
    obtain ⟨earlier, inner, rfl, -, hinner⟩ := exists_opening hbefore
    refine ⟨earlier, more, inner, rfl, hinner, ?_⟩
    have regroup : (earlier ++ .opening how more :: inner) ++ .closing how :: after =
        earlier ++ ((.opening how more :: (inner ++ [.closing how])) ++ after) := by simp
    rw [regroup] at afresh
    have afreshBlock := (beginsAfresh_append.mp (beginsAfresh_append.mp afresh).2).1
    rw [List.append_assoc, List.cons_append, run_append, run_closed how more hinner afreshBlock]
  · rintro rfl
    exact run_of_sheltered nested afresh
  · rintro rfl
    exact run_of_not_sheltered nested afresh
  · rw [get?_stamped service environment _ _ hs he, Fields.get?_filter settable]

/-- A block within a push, both of which set the same field, and after its end another that is still
open. -/
theorem scopes_restore_shadowed :
    opened? [] [.opening .push [("attempt", .int 1)], .opening (.block 0) [("attempt", .int 2)],
      .closing (.block 0), .opening (.block 1) [("attempt", .null)]] =
        some [(.block 1, [("attempt", .null)]), (.push, [("attempt", .int 1)])] ∧
    Fields.get? (run {} [.opening .push [("attempt", .int 1)],
      .opening (.block 0) [("attempt", .int 2)], .closing (.block 0),
      .opening (.block 1) [("attempt", .null)]]).fields "attempt" = some (.int 1) := by
  have nested : opened? [] [.opening .push [("attempt", .int 1)],
      .opening (.block 0) [("attempt", .int 2)], .closing (.block 0),
      .opening (.block 1) [("attempt", .null)]] =
        some [(.block 1, [("attempt", .null)]), (.push, [("attempt", .int 1)])] := rfl
  have afresh : BeginsAfresh {} [.opening .push [("attempt", .int 1)],
      .opening (.block 0) [("attempt", .int 2)], .closing (.block 0),
      .opening (.block 1) [("attempt", .null)]] := by
    rintro (_ | ⟨_, _ | ⟨_, _ | ⟨_, _ | ⟨_, _ | ⟨_, before⟩⟩⟩⟩⟩) how more after h <;> cases h <;>
      first | exact trivial | rfl
  have restored := scopes_restore "notify-engine" "local" {} _ _ nested afresh
  exact ⟨nested, (restored.2.2.2.1 (by simp) "attempt").trans rfl⟩

/-- Acts that are unwound need not end where they began. What a clearing outside of all scopes drops
stays dropped, and of a block that begins again before its end, the last end restores nothing: the
fields it put in force first stay. -/
theorem unwound_not_restored :
    (Unwound [.opening (.block 0) [("notification_id", .text "n1")], .closing (.block 0), .clear] ∧
      Fields.get? (push {} [("recipient_id", .text "ada")]).fields "recipient_id" =
        some (.text "ada") ∧
      Fields.get? ((push {} [("recipient_id", .text "ada")]).run
        [.opening (.block 0) [("notification_id", .text "n1")], .closing (.block 0), .clear]).fields
          "recipient_id" = none) ∧
    Unwound [.opening (.block 0) [("attempt", .int 1)], .opening (.block 0) [("attempt", .int 1)],
      .closing (.block 0), .closing (.block 0)] ∧
    Fields.get? (run {} [.opening (.block 0) [("attempt", .int 1)],
      .opening (.block 0) [("attempt", .int 1)], .closing (.block 0),
      .closing (.block 0)]).fields "attempt" = some (.int 1) :=
  ⟨⟨rfl, rfl, rfl⟩, rfl, rfl⟩

end Scope

end Courier.Log
