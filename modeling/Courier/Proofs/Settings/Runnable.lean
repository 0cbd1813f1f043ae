import Courier.Proofs.Form.Field
import Courier.Settings.File
import Courier.Transport.Basic

/-!
# Accepted settings are runnable

Settings are checked twice: when they are loaded, and when a transport is made of them. The second
check never objects to what the first accepted (`Settings.runnable_of_load`). What the first check
establishes is `TransportSettings.Sound` for the file and `Environment.Sound` for the environment;
`Transport.exists_create` needs no more than the two and that no requirement is missing.
-/

namespace Courier

/-! ## What loading establishes -/

/-- Settings of a transport whose numbers are finite and keep their limits, and whose endpoint is a
web address. -/
structure TransportSettings.Sound (s : TransportSettings) : Prop where
  timeout : ∃ t, s.timeout.value? = some t ∧ 0 < t ∧ t ≤ 300
  successRate : ∃ r, s.successRate.value? = some r ∧ 0 ≤ r ∧ r ≤ 1
  latency : ∃ l, s.latency.value? = some l ∧ 0 ≤ l ∧ l ≤ 60
  endpoint : ∀ url, s.endpoint = some url → Text.isWebAddress url = true

/-- An environment whose port is one and whose endpoint is a web address, each if it is there. -/
structure Environment.Sound (e : Environment) : Prop where
  mailPort : ∀ n, e.mailPort = some n → 1 ≤ n ∧ n ≤ 65535
  endpoint : ∀ url, Text.given e.endpoint = some url → Text.isWebAddress url = true

namespace TransportSettings

open Form

theorem isWebAddress_of_endpointOf {v : Value} {url : String}
    (h : endpointOf v = .ok (some url)) : Text.isWebAddress url = true := by
  obtain ⟨written, _, hwritten⟩ := Checked.andThen_eq_ok_iff.mp h
  cases written with
  | none => cases hwritten
  | some s =>
    dsimp only at hwritten
    split at hwritten
    · rename_i web
      cases hwritten
      exact web
    · cases hwritten

/-- The number in a field with a lower and an upper limit is finite and keeps them. -/
theorem exists_value?_of_field {bag : Bag} {name : String} {default x : Double} {low high : Bound}
    (h : field bag name default (numberWithin [high, low]) = .ok x)
    (usual : ∀ b ∈ [high, low], b.admits default = true) (lower : low.isLower = true)
    (upper : high.isLower = false) (small : low.limit.natAbs < 2 ^ 53)
    (small' : high.limit.natAbs < 2 ^ 53) :
    ∃ u, x.value? = some u ∧ low.Holds u ∧ high.Holds u :=
  Bound.exists_value?_of_admits lower upper small small'
    (admits_of_field h usual (by simp)) (admits_of_field h usual (by simp))

/-- The settings of a form that is accepted are sound. -/
theorem sound_of_ofValue {v : Value} {s : TransportSettings} (accepted : ofValue v = .ok s) :
    s.Sound := by
  obtain ⟨form, _, hall⟩ := Checked.andThen_eq_ok_iff.mp accepted
  obtain ⟨_, latency, hseven, hlatency, rfl⟩ := Checked.seq_eq_ok_iff.mp hall
  obtain ⟨_, successRate, hsix, hrate, rfl⟩ := Checked.seq_eq_ok_iff.mp hseven
  obtain ⟨_, endpoint, hfive, hendpoint, rfl⟩ := Checked.seq_eq_ok_iff.mp hsix
  obtain ⟨_, _, hfour, _, rfl⟩ := Checked.seq_eq_ok_iff.mp hfive
  obtain ⟨_, _, hthree, _, rfl⟩ := Checked.seq_eq_ok_iff.mp hfour
  obtain ⟨_, _, htwo, _, rfl⟩ := Checked.seq_eq_ok_iff.mp hthree
  obtain ⟨_, timeout, hone, htimeout, rfl⟩ := Checked.seq_eq_ok_iff.mp htwo
  obtain ⟨_, _, rfl⟩ := Checked.map_eq_ok_iff.mp hone
  refine ⟨?_, ?_, ?_, ?_⟩
  · obtain ⟨t, ht, above, below⟩ :=
      exists_value?_of_field htimeout (by decide +kernel) rfl rfl (by decide) (by decide)
    exact ⟨t, ht, by simpa [Bound.Holds] using above, by simpa [Bound.Holds] using below⟩
  · obtain ⟨r, hr, above, below⟩ :=
      exists_value?_of_field hrate (by decide +kernel) rfl rfl (by decide) (by decide)
    exact ⟨r, hr, by simpa [Bound.Holds] using above, by simpa [Bound.Holds] using below⟩
  · obtain ⟨l, hl, above, below⟩ :=
      exists_value?_of_field hlatency (by decide +kernel) rfl rfl (by decide) (by decide)
    exact ⟨l, hl, by simpa [Bound.Holds] using above, by simpa [Bound.Holds] using below⟩
  · rintro url rfl
    rcases of_field hendpoint with hnone | ⟨v, hv⟩
    · cases hnone
    · exact isWebAddress_of_endpointOf hv

/-- The settings of an empty form are the usual ones, which are sound too. -/
theorem sound_default : Sound {} := sound_of_ofValue (v := .dict []) rfl

end TransportSettings

namespace Environment

theorem problem?_eq_nil_iff {α : Type} {c : Except Problem α} :
    problem? c = [] ↔ ∃ a, c = .ok a := by
  cases c <;> simp [problem?]

theorem port_within {text : Option String} {n : Int} (h : port text = .ok (some n)) :
    1 ≤ n ∧ n ≤ 65535 := by
  unfold port at h
  split at h
  · cases h
  · split at h
    · cases h
    · split at h
      · rename_i within
        cases h
        exact within
      · cases h

theorem isWebAddress_of_provider {text kept : Option String} {url : String}
    (h : provider text = .ok kept) (hurl : Text.given text = some url) :
    Text.isWebAddress url = true := by
  rw [provider, hurl] at h
  dsimp only at h
  split at h
  · rename_i web
    exact web
  · cases h

/-- An environment that is read without a problem is sound. -/
theorem sound_of_read {get : Variables} {e : Environment} (h : read get = .ok e) : e.Sound := by
  obtain ⟨clean, rfl⟩ := read_eq_ok_iff.mp h
  simp only [problems, List.append_eq_nil_iff, problem?_eq_nil_iff] at clean
  obtain ⟨⟨⟨⟨⟨port, hport⟩, _⟩, _⟩, ⟨_, hprovider⟩⟩, _⟩ := clean
  refine ⟨?_, ?_⟩
  · intro n hn
    have : port = some n := by simpa [ofVariables, checked, hport] using hn
    exact port_within (this ▸ hport)
  · intro url hurl
    exact isWebAddress_of_provider hprovider hurl

end Environment

/-! ## What a transport needs -/

namespace Transport

variable {s : TransportSettings} {e : Environment}

theorem exists_createMail (sound : e.Sound) (kind : s.kind = .smtp)
    (complete : Requirement.missing s e = []) :
    ∃ t, MailTransport.create (mailSettings s e) = .ok t := by
  simp only [Requirement.missing, kind, List.append_eq_nil_iff] at complete
  obtain ⟨host, hhost⟩ : ∃ host, Text.given e.mailHost = some host := by
    cases hgiven : Text.given e.mailHost with
    | some host => exact ⟨host, rfl⟩
    | none => simp [hgiven] at complete
  obtain ⟨n, hn, within⟩ : ∃ n, e.mailPort.getD 0 = n ∧ 1 ≤ n ∧ n ≤ 65535 := by
    cases hport : e.mailPort with
    | some n => exact ⟨n, rfl, sound.mailPort n hport⟩
    | none => simp [hport] at complete
  have hused : (if n = 0 then 587 else n) = n := if_neg (by omega)
  simp only [MailTransport.create, mailSettings, hhost, hn, hused, Value.whole?]
  exact ⟨_, dif_pos within⟩

theorem exists_createProvider (file : s.Sound) (environment : e.Sound) (kind : s.kind = .http)
    (complete : Requirement.missing s e = []) :
    ∃ t, ProviderTransport.create (providerSettings s e) = .ok t := by
  -- The endpoint of the file goes before the one of the environment, so the two are told apart.
  obtain ⟨url, hurl, web⟩ :
      ∃ url, (Text.given s.endpoint).or e.endpoint = some url ∧ Text.isWebAddress url = true := by
    cases hfile : Text.given s.endpoint with
    | some url => exact ⟨url, rfl, file.endpoint url (Text.given_eq_some_iff.mp hfile).1⟩
    | none =>
      cases henv : Text.given e.endpoint with
      | some url =>
        exact ⟨url, (Text.given_eq_some_iff.mp henv).1, environment.endpoint url henv⟩
      | none => simp [Requirement.missing, kind, hfile, henv] at complete
  simp only [ProviderTransport.create, providerSettings, hurl]
  exact ⟨_, dif_pos web⟩

theorem exists_createSimulated (sound : s.Sound) :
    ∃ t, SimulatedTransport.create (.real s.successRate) (.real s.latency) = .ok t := by
  have hzero : Double.zero.value? = some 0 := by simp [Double.zero, Double.value?, Double.signed]
  have hone : (Double.ofInt 1).value? = some 1 := by
    simpa using Double.value?_ofInt (n := 1) (by decide)
  obtain ⟨r, hr, above, below⟩ := sound.successRate
  obtain ⟨l, hl, nonnegative, _⟩ := sound.latency
  have share : (Number.real s.successRate).isShare = true := by
    simp [Number.isShare, (Double.le_iff hzero hr).mpr above, (Double.le_iff hr hone).mpr below]
  have timely : ¬(Number.real s.latency).isNegative = true := by
    rw [Number.isNegative, Double.lt_iff hl hzero]
    exact not_lt.mpr nonnegative
  rw [SimulatedTransport.create, dif_pos share, dif_neg timely]
  exact ⟨_, rfl⟩

/-- Sound settings that lack nothing make a transport. -/
theorem exists_create (file : s.Sound) (environment : e.Sound)
    (complete : Requirement.missing s e = []) : ∃ t, create s e = .ok t := by
  unfold create
  cases kind : s.kind with
  | smtp =>
    obtain ⟨t, ht⟩ := exists_createMail environment kind complete
    exact ⟨mail t, by simp [ht, Except.map]⟩
  | http =>
    obtain ⟨t, ht⟩ := exists_createProvider file environment kind complete
    exact ⟨provider t, by simp [ht, Except.map]⟩
  | log => exact ⟨log, rfl⟩
  | simulated =>
    obtain ⟨t, ht⟩ := exists_createSimulated file
    exact ⟨simulated t, by simp [ht, Except.map]⟩

end Transport

/-! ## Loading -/

namespace Settings

open Form

theorem sound_transport_of_read {v : Value} {s : Settings} (h : read v = .ok s) :
    s.transport.Sound := by
  obtain ⟨form, _, hall⟩ := Checked.andThen_eq_ok_iff.mp (read_eq_ok_iff.mp h)
  obtain ⟨_, _, hsix, _, rfl⟩ := Checked.seq_eq_ok_iff.mp hall
  obtain ⟨_, _, hfive, _, rfl⟩ := Checked.seq_eq_ok_iff.mp hsix
  obtain ⟨_, _, hfour, _, rfl⟩ := Checked.seq_eq_ok_iff.mp hfive
  obtain ⟨_, _, hthree, _, rfl⟩ := Checked.seq_eq_ok_iff.mp hfour
  obtain ⟨_, _, htwo, _, rfl⟩ := Checked.seq_eq_ok_iff.mp hthree
  obtain ⟨_, _, hone, _, rfl⟩ := Checked.seq_eq_ok_iff.mp htwo
  obtain ⟨transport, htransport, rfl⟩ := Checked.map_eq_ok_iff.mp hone
  rcases of_field htransport with rfl | ⟨v, hv⟩
  · exact TransportSettings.sound_default
  · exact TransportSettings.sound_of_ofValue hv

@[simp] theorem transport_overruled (s : Settings) (e : Environment) :
    (s.overruled e).transport = s.transport := rfl

/-- Settings are combined without a report exactly if the file and the environment are each read
without one and no requirement is missing. -/
theorem combine_eq_ok_iff {bag : Bag} {get : Environment.Variables} {s : Settings}
    {e : Environment} : combine bag get = .ok (s, e) ↔
      ∃ own, read (.dict bag) = .ok own ∧ Environment.read get = .ok e ∧
        own.overruled e = s ∧ Requirement.missing own.transport e = [] := by
  unfold combine
  cases hown : read (.dict bag) with
  | error report => simp [bind, Except.bind]
  | ok own =>
    cases henv : Environment.read get with
    | error report => simp [bind, Except.bind]
    | ok environment =>
      cases hcheck : Requirement.check own.transport environment with
      | error report =>
        simp only [bind, Except.bind, transport_overruled, hcheck, Except.ok.injEq, reduceCtorEq,
          false_iff]
        rintro ⟨_, rfl, rfl, _, complete⟩
        rw [← Requirement.check_eq_ok_iff, hcheck] at complete
        cases complete
      | ok _ =>
        have complete := Requirement.check_eq_ok_iff.mp hcheck
        simp only [bind, Except.bind, transport_overruled, hcheck, pure, Except.pure,
          Except.ok.injEq, Prod.mk.injEq]
        constructor
        · rintro ⟨rfl, rfl⟩
          exact ⟨own, rfl, rfl, rfl, complete⟩
        · rintro ⟨_, rfl, rfl, rfl, _⟩
          exact ⟨rfl, rfl⟩

variable {disk : Disk} {path : Option Path} {get : Environment.Variables} {s : Settings}
  {e : Environment}

/-- Settings that are loaded come from a bag. -/
theorem exists_combine_of_load (h : (load disk path get).answer = .ok (s, e)) :
    ∃ bag, combine bag get = .ok (s, e) := by
  unfold load loadWith at h
  split at h
  · cases h
  · rename_i bag _
    split at h
    · cases h
    · refine ⟨bag, ?_⟩
      cases hcombine : combine bag get with
      | error report => simp [hcombine, Except.mapError] at h
      | ok both => simpa [hcombine, Except.mapError] using h

/-- Settings that are loaded keep the limits of their numbers, and a transport of their kind can be
made of them. -/
theorem runnable_of_load (h : (load disk path get).answer = .ok (s, e)) :
    (∃ t, s.transport.timeout.value? = some t ∧ 0 < t ∧ t ≤ 300) ∧
      (∃ r, s.transport.successRate.value? = some r ∧ 0 ≤ r ∧ r ≤ 1) ∧
      (∃ l, s.transport.latency.value? = some l ∧ 0 ≤ l ∧ l ≤ 60) ∧
      ∃ t, Transport.create s.transport e = .ok t ∧ t.kind = s.transport.kind := by
  obtain ⟨bag, hcombine⟩ := exists_combine_of_load h
  obtain ⟨own, hread, henv, rfl, complete⟩ := combine_eq_ok_iff.mp hcombine
  have file : own.transport.Sound := sound_transport_of_read hread
  obtain ⟨t, ht⟩ := Transport.exists_create file (Environment.sound_of_read henv) complete
  exact ⟨file.timeout, file.successRate, file.latency, t, ht, Transport.kind_of_create ht⟩

/-- A disk with one file, whose settings ask for a simulated transport. -/
def simulatedDisk : Disk :=
  ⟨[(⟨0, ["c.yaml"]⟩, .file "transport:\n  type: simulated\n  timeout_seconds: .5\n".toUTF8.toList)]⟩

theorem runnable_of_load_simulated :
    ∃ s e, (load simulatedDisk (some ⟨0, ["c.yaml"]⟩) fun _ => none).answer = .ok (s, e) ∧
      (∃ t, s.transport.timeout.value? = some t ∧ 0 < t ∧ t ≤ 300) ∧
      (∃ r, s.transport.successRate.value? = some r ∧ 0 ≤ r ∧ r ≤ 1) ∧
      (∃ l, s.transport.latency.value? = some l ∧ 0 ≤ l ∧ l ≤ 60) ∧
      ∃ t, Transport.create s.transport e = .ok t ∧ t.kind = s.transport.kind := by
  have accepted :
      (load simulatedDisk (some ⟨0, ["c.yaml"]⟩) fun _ => none).answer.isOk = true := by
    decide +kernel
  cases h : (load simulatedDisk (some ⟨0, ["c.yaml"]⟩) fun _ => none).answer with
  | ok loaded => exact ⟨loaded.1, loaded.2, rfl, runnable_of_load h⟩
  | error failure => simp [h, Except.isOk, Except.toBool] at accepted

end Settings

end Courier
