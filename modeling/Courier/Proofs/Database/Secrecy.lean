import Courier.Database.Url
import Courier.Proofs.Text.Cut

/-!
# Secrecy of passwords

Every address that `Url.redacted` changes comes out in one form, `Url.veiled`: the dialect, the user,
three stars and the place. An address of that form stays as it is (`Url.redacted_veiled`).

The password of an address is cut away with all that stands between the user and the last `@`
(`Url.redacted_address`), wherever separators occur in the password or in the place. Only the dialect
of files is shown as it is. So what is shown of two addresses that differ in their passwords is the
same exactly if they do not speak that dialect (`Url.redacted_conceals_iff`).
-/

namespace Courier.Url

open Courier.Text

/-! ## Addresses that hide a password -/

/-- An address with stars for a password. -/
def veiled (scheme user location : List Char) : List Char :=
  scheme ++ schemeMark ++ (user ++ ':' :: '*' :: '*' :: '*' :: '@' :: location)

/-- Whether a dialect ends at the first mark, whatever follows the mark. -/
def Opens (scheme : List Char) : Prop :=
  ∀ rest, cutFirst schemeMark (scheme ++ schemeMark ++ rest) = some (scheme, rest)

/-- Whether an address begins like one of a file. -/
theorem isFileDialect_iff {url : String} :
    isFileDialect url = true ↔ "sqlite".toList <+: url.toList := String.startsWith_string_iff

/-- The dialect of files has no mark in its name, so the mark does not help to spell it. -/
theorem prefix_of_prefix_append_mark {scheme rest : List Char}
    (h : "sqlite".toList <+: scheme ++ schemeMark ++ rest) : "sqlite".toList <+: scheme := by
  rw [List.append_assoc] at h
  rcases List.prefix_or_prefix_of_prefix h (List.prefix_append scheme _) with hscheme | ⟨more, hmore⟩
  · exact hscheme
  · rw [← hmore, List.prefix_append_right_inj] at h
    cases more with
    | nil => exact ⟨[], by rw [← hmore, List.append_nil, List.append_nil]⟩
    | cons c more =>
      obtain ⟨tail, hc⟩ := h
      obtain ⟨rfl, -⟩ := List.cons.inj hc
      have : ':' ∈ "sqlite".toList := by simp [← hmore]
      exact absurd this (by decide)

theorem opens_of_not_mem {scheme : List Char} (h : ':' ∉ scheme) : Opens scheme :=
  cutFirst_of_not_mem h

/-- No end of the mark is a beginning of it, so a text without a mark has none before the next. -/
theorem opens_of_cutFirst_eq_none : ∀ {scheme : List Char},
    cutFirst schemeMark scheme = none → Opens scheme
  | [], _ => fun rest => opens_of_not_mem List.not_mem_nil rest
  | c :: scheme, h => fun rest => by
    have starts : schemeMark.isPrefixOf (c :: scheme) = false := by
      rw [Bool.eq_false_iff]
      intro starts
      simp [cutFirst, starts] at h
    have hscheme : cutFirst schemeMark scheme = none := by
      simpa [cutFirst, starts] using h
    have still : schemeMark.isPrefixOf (c :: (scheme ++ schemeMark ++ rest)) = false := by
      rcases scheme with _ | ⟨d, _ | ⟨e, scheme⟩⟩
      · simp [schemeMark, List.isPrefixOf]
      · simp [schemeMark, List.isPrefixOf]
      · simpa [schemeMark, List.isPrefixOf] using starts
    rw [List.cons_append, List.cons_append, cutFirst, still, if_neg Bool.false_ne_true,
      opens_of_cutFirst_eq_none hscheme rest]
    rfl

theorem opens_of_cutFirst {cs scheme user : List Char}
    (h : cutFirst schemeMark cs = some (scheme, user)) : Opens scheme := cutFirst_append h

/-- The user's name ends at the first colon. -/
theorem takeWhile_user {user rest : List Char} (h : ':' ∉ user) :
    (user ++ ':' :: rest).takeWhile (· != ':') = user := by
  have solid : ∀ c ∈ user, (c != ':') = true := fun c hc => by
    simpa using ne_of_mem_of_not_mem hc h
  rw [List.takeWhile_append_of_pos solid]
  simp

/-- An address of another dialect that has a password. -/
theorem redacted_of_cutLast {url : String} {credentials location : List Char}
    (dialect : isFileDialect url = false)
    (hcut : cutLast '@' url.toList = some (credentials, location))
    (marked : occursIn schemeMark url.toList = true) :
    (redacted url).toList = veiled ((cutFirst schemeMark credentials).getD (credentials, [])).1
      (((cutFirst schemeMark credentials).getD (credentials, [])).2.takeWhile (· != ':'))
      location := by
  simp [redacted, dialect, hcut, marked, veiled]

/-- An address of that form is left as it is. -/
theorem redacted_veiled {url : String} {scheme user location : List Char}
    (h : url.toList = veiled scheme user location) (opens : Opens scheme) (plain : ':' ∉ user)
    (last : '@' ∉ location) : redacted url = url := by
  by_cases dialect : isFileDialect url = true
  · simp [redacted, dialect]
  · have hcut : cutLast '@' url.toList =
        some (scheme ++ schemeMark ++ (user ++ [':', '*', '*', '*']), location) := by
      rw [cutLast_eq_some_iff, h]
      exact ⟨by simp [veiled], last⟩
    have marked : occursIn schemeMark url.toList = true := h ▸ occursIn_append ..
    rw [← String.toList_inj, redacted_of_cutLast (by simpa using dialect) hcut marked, opens, h,
      Option.getD_some, takeWhile_user plain]

/-- What is shown of an address is the address, or hides a password. -/
theorem redacted_cases (url : String) : redacted url = url ∨ ∃ scheme user location,
    (redacted url).toList = veiled scheme user location ∧ Opens scheme ∧ ':' ∉ user ∧
      '@' ∉ location := by
  by_cases dialect : isFileDialect url = true
  · exact .inl (by simp [redacted, dialect])
  · cases hcut : cutLast '@' url.toList with
    | none => exact .inl (by simp [redacted, hcut])
    | some parts =>
      obtain ⟨credentials, location⟩ := parts
      by_cases marked : occursIn schemeMark url.toList = true
      · refine .inr ⟨_, _, _, redacted_of_cutLast (by simpa using dialect) hcut marked, ?_, ?_,
          (cutLast_eq_some_iff.mp hcut).2⟩
        · cases hscheme : cutFirst schemeMark credentials with
          | none => exact opens_of_cutFirst_eq_none hscheme
          | some parts => exact opens_of_cutFirst hscheme
        · intro hmem
          simpa using List.all_eq_true.mp List.all_takeWhile ':' hmem
      · exact .inl (by simp [redacted, hcut, marked])

/-! ## Two passwords -/

/-- The address of a database with a user and a password. -/
def address (scheme user password location : String) : String :=
  scheme ++ "://" ++ user ++ ":" ++ password ++ "@" ++ location

theorem toList_address (scheme user password location : String) :
    (address scheme user password location).toList = scheme.toList ++ schemeMark ++
      (user.toList ++ ':' :: password.toList ++ '@' :: location.toList) := by
  simp [address, schemeMark]

theorem isFileDialect_address (scheme user password location : String) :
    isFileDialect (address scheme user password location) = isFileDialect scheme := by
  rw [Bool.eq_iff_iff, isFileDialect_iff, isFileDialect_iff, toList_address]
  refine ⟨prefix_of_prefix_append_mark, fun h => h.trans ?_⟩
  rw [List.append_assoc]
  exact List.prefix_append _ _

/-- The text after the last `@` of a place, which is the whole place as a rule. -/
def placeOf (location : List Char) : List Char := ((cutLast '@' location).map Prod.snd).getD location

/-- The last `@` of an address is the one after the password, or one of the place. -/
theorem exists_cutLast_append (front location : List Char) : ∃ rest,
    cutLast '@' (front ++ '@' :: location) = some (front ++ rest, placeOf location) := by
  unfold placeOf
  cases hcut : cutLast '@' location with
  | none =>
    refine ⟨[], cutLast_eq_some_iff.mpr ⟨by simp, ?_⟩⟩
    simpa using cutLast_eq_none_iff.mp hcut
  | some parts =>
    obtain ⟨before, place⟩ := parts
    obtain ⟨rfl, last⟩ := cutLast_eq_some_iff.mp hcut
    exact ⟨'@' :: before, cutLast_eq_some_iff.mpr ⟨by simp, last⟩⟩

/-- What is shown of an address does not have the password in it. -/
theorem redacted_address {scheme user : String} (password location : String)
    (dialect : isFileDialect scheme = false) (hscheme : ':' ∉ scheme.toList)
    (huser : ':' ∉ user.toList) : (redacted (address scheme user password location)).toList =
      veiled scheme.toList user.toList (placeOf location.toList) := by
  obtain ⟨rest, hcut⟩ := exists_cutLast_append
    (scheme.toList ++ schemeMark ++ (user.toList ++ ':' :: password.toList)) location.toList
  have text := toList_address scheme user password location
  have credentials : cutFirst schemeMark (scheme.toList ++ schemeMark ++
      (user.toList ++ ':' :: password.toList) ++ rest) =
        some (scheme.toList, user.toList ++ ':' :: (password.toList ++ rest)) := by
    have := opens_of_not_mem hscheme (user.toList ++ ':' :: (password.toList ++ rest))
    simpa using this
  have whole : (address scheme user password location).toList = scheme.toList ++ schemeMark ++
      (user.toList ++ ':' :: password.toList) ++ '@' :: location.toList := by
    rw [text]
    simp
  rw [redacted_of_cutLast (by rw [isFileDialect_address, dialect]) (whole ▸ hcut)
    (text ▸ occursIn_append ..), credentials, Option.getD_some, takeWhile_user huser]

theorem address_inj {scheme user location p q : String}
    (h : address scheme user p location = address scheme user q location) : p = q := by
  rw [← String.toList_inj, toList_address, toList_address] at h
  rw [← String.toList_inj]
  simpa using h

/-- Of two addresses that differ in their passwords the same is shown, unless they speak the dialect
of files; and what is shown is shown as it is. -/
theorem redacted_conceals_iff (scheme user location p q : String) (hscheme : ':' ∉ scheme.toList)
    (huser : ':' ∉ user.toList) :
    (redacted (address scheme user p location) = redacted (address scheme user q location) ↔
      isFileDialect scheme = false ∨ p = q) ∧
    ∀ url, redacted (redacted url) = redacted url := by
  refine ⟨⟨fun h => ?_, ?_⟩, fun url => ?_⟩
  · cases dialect : isFileDialect scheme with
    | false => exact .inl rfl
    | true =>
      have shown : ∀ password, redacted (address scheme user password location) =
          address scheme user password location := fun password => by
        rw [redacted, isFileDialect_address, dialect, if_pos rfl]
      rw [shown, shown] at h
      exact .inr (address_inj h)
  · rintro (dialect | rfl)
    · rw [← String.toList_inj, redacted_address p location dialect hscheme huser,
        redacted_address q location dialect hscheme huser]
    · rfl
  · rcases redacted_cases url with h | ⟨scheme, user, location, h, opens, plain, last⟩
    · rw [h, h]
    · exact redacted_veiled h opens plain last

/-- A password and a place with separators of their own. -/
theorem redacted_conceals_separators : ':' ∉ "postgresql+psycopg2".toList ∧ ':' ∉ "app".toList ∧
    redacted (address "postgresql+psycopg2" "app" "a@b:c/d" "db:5432/n@x") =
      redacted (address "postgresql+psycopg2" "app" "secret" "db:5432/n@x") := by
  have hscheme : ':' ∉ "postgresql+psycopg2".toList := by decide
  have huser : ':' ∉ "app".toList := by decide
  have dialect : isFileDialect "postgresql+psycopg2" = false := by
    rw [← Bool.not_eq_true, isFileDialect_iff]
    decide
  exact ⟨hscheme, huser, (redacted_conceals_iff _ _ _ _ _ hscheme huser).1.mpr (.inl dialect)⟩

/-- The dialect of enciphered files has passwords, and they are shown. -/
theorem redacted_reveals_cipher_key : redacted (address "sqlite+pysqlcipher" "" "secret" "/n.db") ≠
    redacted (address "sqlite+pysqlcipher" "" "other" "/n.db") := by
  have dialect : isFileDialect "sqlite+pysqlcipher" = true := by
    rw [isFileDialect_iff]
    decide
  rw [redacted, redacted, isFileDialect_address, isFileDialect_address, dialect, if_pos rfl,
    if_pos rfl]
  intro h
  exact absurd (address_inj h) (by decide)

end Courier.Url
