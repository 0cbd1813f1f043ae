import Courier.MailAddress.Basic
import Courier.Proofs.Text.Cut

/-!
# Normal addresses are bare

An address in normal form has no blank at either end (`MailAddress.isBare_of_normalize`): its
mailbox begins with a character that a mailbox may hold, and its domain holds no blanks.
-/

namespace Courier

/-! ## Blanks -/

namespace Text

/-- The blank characters, by their numbers. -/
def blankCodes : List Nat :=
  List.range' 9 5 ++ List.range' 28 5 ++ [0x85, 0xa0, 0x1680] ++ List.range' 0x2000 11 ++
    [0x2028, 0x2029, 0x202f, 0x205f, 0x3000]

theorem mem_blankCodes_of_isBlank {c : Char} (h : isBlank c = true) : c.toNat ∈ blankCodes := by
  simp only [isBlank, Bool.or_eq_true, Bool.and_eq_true, decide_eq_true_eq, beq_iff_eq] at h
  simp only [blankCodes, List.mem_append, List.mem_range'_1, List.mem_cons, List.not_mem_nil]
  omega

/-- A property of the blank characters, one by one. -/
theorem of_isBlank {P : Char → Prop} (each : ∀ n ∈ blankCodes, P (Char.ofNat n)) {c : Char}
    (h : isBlank c = true) : P c := by
  have := each _ (mem_blankCodes_of_isBlank h)
  rwa [Char.ofNat_toNat] at this

end Text

namespace MailAddress

open Text

/-- A blank is no character of a mailbox, cannot be seen and joins no character. -/
theorem invisible_of_isBlank {c : Char} (h : isBlank c = true) :
    isAtomChar c = false ∧ isSeen c = false ∧ isMark c = false :=
  of_isBlank (P := fun c => isAtomChar c = false ∧ isSeen c = false ∧ isMark c = false)
    (by decide +kernel) h

/-- A text that is safe without blanks has none. -/
theorem not_isBlank_of_checkSafe {cs : List Char} (safe : checkSafe false cs = .ok ()) {c : Char}
    (hc : c ∈ cs) : isBlank c = false := by
  by_contra blank
  obtain ⟨_, unseen, noMark⟩ := invisible_of_isBlank (by simpa using blank)
  have bad : c ∈ unsafeChars false cs := by
    rw [unsafeChars, List.mem_mergeSort, List.mem_eraseDups, List.mem_append]
    cases cs with
    | nil => cases hc
    | cons d rest =>
      rcases List.mem_cons.mp hc with rfl | later
      · simp [unseen]
      · simp [later, unseen, noMark]
  have none : unsafeChars false cs = [] := by
    by_contra some
    simp [checkSafe, some] at safe
  rw [none] at bad
  cases bad

/-- A text of dotted parts begins with a character of a part. -/
theorem isPart_of_isDotted {isPart : Char → Bool} {c : Char} {cs : List Char}
    (h : isDotted isPart (c :: cs) = true) : isPart c = true := by
  rw [isDotted, splitOn] at h
  split at h
  · simp at h
  · split at h <;> simp_all

/-- A mailbox that was not quoted is left as it is, and begins with a character that is not
blank. -/
theorem of_checkMailbox {cs checked : List Char} (h : checkMailbox false cs = .ok checked) :
    checked = cs ∧ ∃ c rest, cs = c :: rest ∧ isBlank c = false := by
  cases cs with
  | nil => simp [checkMailbox] at h
  | cons c rest =>
    rw [checkMailbox, if_neg (by simp)] at h
    split at h
    · rename_i dotted
      cases h
      refine ⟨rfl, c, rest, rfl, ?_⟩
      by_contra blank
      have := (invisible_of_isBlank (by simpa using blank)).1
      simp [isPart_of_isDotted dotted] at this
    · split at h
      · cases safe : checkSafe false (c :: rest) with
        | error fault => simp [safe, Except.map] at h
        | ok _ =>
          rw [safe] at h
          cases h
          exact ⟨rfl, c, rest, rfl, not_isBlank_of_checkSafe safe List.mem_cons_self⟩
      · simp only [Bool.false_eq_true, if_false] at h
        split at h
        · cases h
        · cases hperiods : checkPeriods .mailbox (c :: rest) <;>
            simp [hperiods, Except.bind] at h

/-- The mailboxes whose case does not matter begin with letters. -/
theorem head_caselessMailboxes {name : String} (h : name ∈ caselessMailboxes) :
    ∃ c rest, name.toList = c :: rest ∧ isBlank c = false := by
  have each : caselessMailboxes.all (fun name => name.toList.head?.any (!isBlank ·)) = true := by
    decide +kernel
  obtain ⟨c, hc, solid⟩ := Option.any_eq_true _ _ |>.mp (List.all_eq_true.mp each name h)
  obtain ⟨rest, hrest⟩ := List.head?_eq_some_iff.mp hc
  exact ⟨c, rest, hrest, by simpa using solid⟩

/-- A normal mailbox is one that is accepted without quotes, perhaps in lower case. -/
theorem exists_of_normalMailbox {isQuoted : Bool} {cs mailbox : List Char}
    (h : normalMailbox isQuoted cs = .ok mailbox) : ∃ whole checked,
      checkMailbox false whole = .ok checked ∧
        (mailbox = whole ∨ String.ofList mailbox ∈ caselessMailboxes) := by
  cases hchecked : checkMailbox isQuoted cs with
  | error fault => simp [normalMailbox, hchecked, bind, Except.bind] at h
  | ok checked =>
    simp only [normalMailbox, hchecked, bind, Except.bind, pure, Except.pure] at h
    cases isQuoted with
    | true =>
      repeat' split at h
      all_goals cases h
      all_goals contradiction
    | false =>
      -- what composing changes is checked again, so the composed mailbox is accepted either way
      have accepted : ∃ again, checkMailbox false (composed checked) = .ok again := by
        by_cases same : composed checked = checked
        · exact ⟨checked, by rw [same, ← hchecked, (of_checkMailbox hchecked).1]⟩
        · cases hagain : checkMailbox false (composed checked) with
          | ok again => exact ⟨again, rfl⟩
          | error fault => simp [same, hagain] at h
      obtain ⟨again, hagain⟩ := accepted
      refine ⟨_, _, hagain, ?_⟩
      simp only [hagain, ite_self, Bool.false_eq_true, if_false, Except.ok.injEq] at h
      split at h
      · rename_i caseless
        rw [← h]
        exact .inr (by simpa using (Bool.and_eq_true_iff.mp caseless).2)
      · exact .inl h.symm

/-- A normal mailbox begins with a character that is not blank. -/
theorem not_isBlank_of_normalMailbox {isQuoted : Bool} {cs mailbox : List Char}
    (h : normalMailbox isQuoted cs = .ok mailbox) :
    ∃ c rest, mailbox = c :: rest ∧ isBlank c = false := by
  obtain ⟨whole, checked, accepted, rfl | caseless⟩ := exists_of_normalMailbox h
  · exact (of_checkMailbox accepted).2
  · simpa using head_caselessMailboxes caseless

/-- A normal domain holds no blanks. -/
theorem checkSafe_of_normalDomain {domain : List Char} {normal : List Char × List Char}
    (h : normalDomain domain = .ok normal) : checkSafe false normal.2 = .ok () := by
  simp only [normalDomain, bind, Except.bind, pure, Except.pure] at h
  repeat' split at h
  all_goals cases h
  all_goals assumption

/-- A normal address is made of a normal mailbox and a normal domain. -/
theorem exists_of_normalize {address normal : String} (h : normalize address = .ok normal) :
    ∃ (p : Parts) (mailbox : List Char) (domain : List Char × List Char),
      normalMailbox p.quotedMailbox p.mailbox = .ok mailbox ∧ normalDomain p.domain = .ok domain ∧
        normal = String.ofList (mailbox ++ '@' :: domain.2) := by
  cases hparts : parts address.toList with
  | error fault => simp [normalize, hparts, bind, Except.bind] at h
  | ok p =>
    cases hmailbox : normalMailbox p.quotedMailbox p.mailbox with
    | error fault => simp [normalize, hparts, hmailbox, bind, Except.bind] at h
    | ok mailbox =>
      cases hdomain : normalDomain p.domain with
      | error fault =>
        simp only [normalize, hparts, hmailbox, hdomain, bind, Except.bind] at h
        repeat' split at h
        all_goals cases h
      | ok domain =>
        refine ⟨p, mailbox, domain, hmailbox, hdomain, ?_⟩
        simp only [normalize, hparts, hmailbox, hdomain, bind, Except.bind, pure, Except.pure] at h
        repeat' split at h
        all_goals cases h
        rfl

/-- An address in normal form has no blank at either end. -/
theorem isBare_of_normalize {address normal : String} (h : normalize address = .ok normal) :
    Text.IsBare normal := by
  obtain ⟨p, mailbox, domain, hmailbox, hdomain, rfl⟩ := exists_of_normalize h
  obtain ⟨first, rest, rfl, solid⟩ := not_isBlank_of_normalMailbox hmailbox
  refine ⟨by simp [← String.toList_inj], fun c hc => ?_, fun c hc => ?_⟩
  · obtain rfl : first = c := by simpa using hc
    exact solid
  · rw [String.toList_ofList, List.getLast?_append_of_ne_nil _ (by simp)] at hc
    rcases List.mem_cons.mp (List.mem_of_getLast? hc) with rfl | inside
    · decide
    · exact not_isBlank_of_checkSafe (checkSafe_of_normalDomain hdomain) inside

end MailAddress

end Courier
