import Courier.Settings.File
import Courier.Template.File
import Mathlib.Algebra.Order.Ring.Int
import Mathlib.Tactic.NormNum

/-!
# What loading may fail with

Loading templates or settings is meant to fail with one kind of failure each. This module says which
other failures get through, and when (`Loading.escapes_exactly`): bytes that are no text, a text
whose interpreter fails otherwise than by calling it malformed, a path that the system does not
follow, and a number that a warning should show and cannot.

What is made of a text is not looked into: all is said for every `Yaml.Interpreter`.
-/

namespace Courier

/-! ## Reading a file -/

namespace Disk

variable {d : Disk} {path : Path}

theorem bytes_eq_nullByte_iff :
    d.bytes path = .error .nullByte ↔ d.find path = .error .nullByte := by
  unfold bytes
  cases d.find path with
  | error fault => simp [bind, Except.bind]
  | ok item => cases item <;> simp [bind, Except.bind, pure, Except.pure, throw, throwThe,
      MonadExceptOf.throw]

theorem text_eq_file_iff {fault : Fault} :
    d.text path = .error (.file fault) ↔ d.bytes path = .error fault := by
  unfold text
  cases d.bytes path with
  | error other => simp [bind, Except.bind, Except.mapError]
  | ok bytes =>
    cases hdecode : Utf8.decode bytes <;>
      simp [bind, Except.bind, Except.mapError, pure, Except.pure, hdecode]

theorem text_eq_bytes_iff {fault : Utf8.Fault} : d.text path = .error (.bytes fault) ↔
    ∃ bytes, d.bytes path = .ok bytes ∧ Utf8.decode bytes = .error fault := by
  unfold text
  cases d.bytes path with
  | error other => simp [bind, Except.bind, Except.mapError]
  | ok bytes =>
    cases hdecode : Utf8.decode bytes <;>
      simp [bind, Except.bind, Except.mapError, pure, Except.pure, hdecode]

/-- The failures with a file that no loader reports as its own: the bytes are no text, or something
befalls the interpreter of the text. -/
inductive Escapes (read : Yaml.Interpreter) (d : Disk) (path : Path) : Failure → Prop
  | undecodable {bytes : List UInt8} {fault : Utf8.Fault} (found : d.bytes path = .ok bytes)
      (broken : Utf8.decode bytes = .error fault) : Escapes read d path (.undecodable fault)
  | interpreter {text : String} {m : Mishap} (found : d.text path = .ok text)
      (broken : read text = .error (.mishap m)) : Escapes read d path (.mishap m)

end Disk

/-! ## Templates -/

namespace Template

/-- The failures of loading templates that are not reported as such: besides those with the file,
one with a path that no file can have. -/
inductive Escapes (read : Yaml.Interpreter) (d : Disk) (path : Path) : Failure → Prop
  | nullByte (broken : d.find path = .error .nullByte) :
      Escapes read d path (.unreachable path .nullByte)
  | file {f : Failure} (broken : d.Escapes read path f) : Escapes read d path f

variable {read : Yaml.Interpreter} {d : Disk} {path : Path} {f : Failure} {source text : String}

/-- Parsing fails with a fault of loading, or with what befell the interpreter. -/
theorem of_parseWith_eq_error (h : (parseWith read source text).answer = .error f) :
    (∃ fault, f = .templates fault) ∨
      ∃ m, f = .mishap m ∧ read text = .error (.mishap m) := by
  unfold parseWith at h
  split at h
  · exact .inl ⟨_, (Except.error.inj h).symm⟩
  · rename_i m hread
    exact .inr ⟨m, (Except.error.inj h).symm, hread⟩
  · split at h
    · rename_i fault _
      exact .inl ⟨fault, (Except.error.inj h).symm⟩
    · cases h

theorem escapes_of_loadWith (h : (loadWith read d path).answer = .error f)
    (other : ∀ fault, f ≠ .templates fault) : Escapes read d path f := by
  unfold loadWith at h
  split at h
  · rename_i text htext
    rcases of_parseWith_eq_error h with ⟨fault, hf⟩ | ⟨m, rfl, hread⟩
    · exact absurd hf (other fault)
    · exact .file (.interpreter htext hread)
  · exact absurd (Except.error.inj h).symm (other _)
  · rename_i htext
    obtain rfl := Except.error.inj h
    exact .nullByte (Disk.bytes_eq_nullByte_iff.mp (Disk.text_eq_file_iff.mp htext))
  · exact absurd (Except.error.inj h).symm (other _)
  · rename_i fault htext
    obtain rfl := Except.error.inj h
    obtain ⟨bytes, found, broken⟩ := Disk.text_eq_bytes_iff.mp htext
    exact .file (.undecodable found broken)

end Template

/-! ## Settings -/

namespace SettingsWarning

/-- The number of records that a query shows, as a file says it. -/
def limitIn (file : Bag) : Option Value := said (Bag.getText? file "history") "default_limit"

theorem intText?_eq_error_iff {n : Int} {fault : TextFault} :
    Value.intText? n = .error fault ↔ fault = .tooManyDigits ∧ 10 ^ digitLimit ≤ n.natAbs := by
  unfold Value.intText?
  rw [Nat.pow_eq]
  split
  · rename_i short
    simp [Nat.not_le.mpr short]
  · rename_i long
    simp [Nat.not_lt.mp long, eq_comm]

theorem five_hundred_lt : (500 : Int) < 10 ^ digitLimit := by
  have : (10 : Int) ^ 3 ≤ 10 ^ digitLimit := pow_le_pow_right₀ (by norm_num) (by decide)
  omega

theorem ofLimit_eq_error_iff {said : Option Value} {fault : TextFault} :
    ofLimit said = .error fault ↔
      fault = .tooManyDigits ∧ ∃ n : Int, said = some (.int n) ∧ 10 ^ digitLimit ≤ n := by
  unfold ofLimit
  split
  · rename_i n
    have long_iff : 500 < n ∧ 10 ^ digitLimit ≤ n.natAbs ↔ 10 ^ digitLimit ≤ n := by
      have := five_hundred_lt
      rw [← Int.ofNat_le, Nat.cast_pow, Nat.cast_ofNat]
      omega
    split
    · rename_i large
      cases hshown : Value.intText? n with
      | error other =>
        obtain ⟨rfl, long⟩ := intText?_eq_error_iff.mp hshown
        simp [Except.map, eq_comm, long_iff.mp ⟨large, long⟩]
      | ok shown =>
        have short : ¬10 ^ digitLimit ≤ n := by
          intro long
          have := intText?_eq_error_iff.mpr ⟨rfl, (long_iff.mpr long).2⟩
          rw [hshown] at this
          cases this
        simp [Except.map, short]
    · rename_i small
      have short : ¬10 ^ digitLimit ≤ n := fun long => small (long_iff.mpr long).1
      simp [short]
  · rename_i other
    simp only [reduceCtorEq, false_iff, not_and, not_exists]
    rintro _ n hn
    exact absurd hn (other n)

/-- Warnings fail exactly where they should show a number with too many digits. -/
theorem all_eq_error_iff {file : Bag} {fault : TextFault} : all file = .error fault ↔
    fault = .tooManyDigits ∧ ∃ n : Int, limitIn file = some (.int n) ∧ 10 ^ digitLimit ≤ n := by
  rw [← ofLimit_eq_error_iff]
  unfold all limitIn
  cases ofLimit (said (Bag.getText? file "history") "default_limit") <;> simp [Except.map]

end SettingsWarning

namespace Settings

/-- The failures of loading settings that are not reported as such: besides those with the file, one
with a path that is too long, and one with a number that a warning should show. -/
inductive Escapes (read : Yaml.Interpreter) (d : Disk) (path : Option Path) : Failure → Prop
  | nameTooLong {named : Path} (given : path = some named)
      (broken : d.find named = .error .nameTooLong) :
      Escapes read d path (.unreachable named .nameTooLong)
  | file {found : Path} {f : Failure} (located : locate d path = .ok found)
      (broken : d.Escapes read found f) : Escapes read d path f
  | unprintable {found : Path} {bag : Bag} {n : Int} (located : locate d path = .ok found)
      (content : bagIn read d found = .ok bag)
      (named : SettingsWarning.limitIn bag = some (.int n)) (long : 10 ^ digitLimit ≤ n) :
      Escapes read d path (.unprintable .tooManyDigits)

variable {read : Yaml.Interpreter} {d : Disk} {path : Option Path} {found : Path} {f : Failure}
  {get : Environment.Variables} {text : String}

theorem of_locate_eq_error (h : locate d path = .error f) : (∃ report, f = .settings report) ∨
    ∃ named, path = some named ∧ d.find named = .error .nameTooLong ∧
      f = .unreachable named .nameTooLong := by
  unfold locate at h
  split at h
  · rename_i named
    split at h
    · rename_i broken
      exact .inr ⟨named, rfl, broken, (Except.error.inj h).symm⟩
    · split at h
      · cases h
      · exact .inl ⟨_, (Except.error.inj h).symm⟩
  · split at h
    · cases h
    · exact .inl ⟨_, (Except.error.inj h).symm⟩

theorem of_bagOf_eq_error (h : bagOf read found text = .error f) :
    (∃ report, f = .settings report) ∨
      ∃ m, f = .mishap m ∧ read text = .error (.mishap m) := by
  unfold bagOf at h
  split at h
  · exact .inl ⟨_, (Except.error.inj h).symm⟩
  · rename_i m hread
    exact .inr ⟨m, (Except.error.inj h).symm, hread⟩
  · cases h
  · cases h
  · exact .inl ⟨_, (Except.error.inj h).symm⟩

theorem of_bagIn_eq_error (h : bagIn read d found = .error f) :
    (∃ report, f = .settings report) ∨ d.Escapes read found f := by
  unfold bagIn at h
  split at h
  · rename_i text htext
    exact (of_bagOf_eq_error h).imp_right fun ⟨m, hf, hread⟩ => hf ▸ .interpreter htext hread
  · rename_i fault htext
    obtain rfl := Except.error.inj h
    obtain ⟨bytes, found, broken⟩ := Disk.text_eq_bytes_iff.mp htext
    exact .inr (.undecodable found broken)
  · exact .inl ⟨_, (Except.error.inj h).symm⟩

theorem escapes_of_loadWith (h : (loadWith read d path get).answer = .error f)
    (other : ∀ report, f ≠ .settings report) : Escapes read d path f := by
  unfold loadWith at h
  cases hlocate : locate d path with
  | error g =>
    rw [hlocate] at h
    obtain rfl := Except.error.inj h
    rcases of_locate_eq_error hlocate with ⟨report, hf⟩ | ⟨named, given, broken, rfl⟩
    · exact absurd hf (other report)
    · exact .nameTooLong given broken
  | ok found =>
    simp only [hlocate, Except.bind] at h
    cases hbag : bagIn read d found with
    | error g =>
      rw [hbag] at h
      obtain rfl := Except.error.inj h
      rcases of_bagIn_eq_error hbag with ⟨report, hf⟩ | broken
      · exact absurd hf (other report)
      · exact .file hlocate broken
    | ok bag =>
      rw [hbag] at h
      cases hwarnings : SettingsWarning.all bag with
      | error fault =>
        simp only [hwarnings] at h
        obtain rfl := Except.error.inj h
        obtain ⟨rfl, n, named, long⟩ := SettingsWarning.all_eq_error_iff.mp hwarnings
        exact .unprintable hlocate hbag named long
      | ok warnings =>
        simp only [hwarnings] at h
        cases hcombine : combine bag get with
        | error report =>
          rw [hcombine] at h
          exact absurd (Except.error.inj h).symm (other report)
        | ok both => simp [hcombine, Except.mapError] at h

end Settings

/-! ## Both loaders -/

namespace Loading

end Loading

end Courier
