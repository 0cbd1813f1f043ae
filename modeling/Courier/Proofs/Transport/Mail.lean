import Courier.Proofs.Dispatch.Calls
import Courier.Proofs.Record.Life

/-!
# Conversations with a mail server

A conversation follows a plan until the server objects. Since a plan takes its steps in one order
and none twice (`MailTransport.ordered_plan`), a call is made exactly if it is planned and the server
has objected to none before it (`MailTransport.mem_carryOut_iff`). Giving up the connection comes
last, whatever the server objected to, unless there is no connection
(`MailTransport.calls_converse`).

`MailTransport.Conversation` says of each call when it is made. Together with the order this leaves
one list of calls (`MailTransport.Conversation.unique`).

Main statement: `MailTransport.attempt_converses`.
-/

namespace Courier

/-- The place of a step in a conversation. -/
def MailStep.place : MailStep → Nat
  | connect => 0
  | secure => 1
  | logIn => 2
  | send => 3
  | quit => 4

namespace MailTransport

variable {t : MailTransport} {server : MailServer} {recipient : String}
  {calls : List MailCall} {call : MailCall}

/-! ## Calls until the server objects -/

/-- Calls that take their steps in order, none of them twice. -/
def Ordered (calls : List MailCall) : Prop :=
  calls.Pairwise fun a b => a.step.place < b.step.place

/-- A planned call is made unless the server objects to one before it. -/
theorem mem_carryOut_iff (ordered : Ordered calls) : call ∈ (carryOut server calls).1 ↔
    call ∈ calls ∧ ∀ c ∈ calls, c.step.place < call.step.place → server c.step = none := by
  induction calls with
  | nil => simp [carryOut]
  | cons first rest ih =>
    obtain ⟨before, ordered⟩ := List.pairwise_cons.mp ordered
    have first_before_rest : ∀ c ∈ rest, ¬c.step.place < first.step.place :=
      fun c hc => Nat.not_lt.mpr (Nat.le_of_lt (before c hc))
    rw [carryOut, List.mem_cons, List.forall_mem_cons]
    cases objection : server first.step with
    | some m =>
      simp only [List.mem_singleton]
      constructor
      · rintro rfl
        exact ⟨.inl rfl, by simp, fun c hc earlier => absurd earlier (first_before_rest c hc)⟩
      · rintro ⟨rfl | later, accepted, -⟩
        · rfl
        · exact absurd (accepted (before call later)) (Option.some_ne_none m)
    | none =>
      rw [List.mem_cons, ih ordered]
      constructor
      · rintro (rfl | ⟨later, accepted⟩)
        · exact ⟨.inl rfl, fun _ => rfl,
            fun c hc earlier => absurd earlier (first_before_rest c hc)⟩
        · exact ⟨.inr later, fun _ => rfl, accepted⟩
      · rintro ⟨rfl | later, -, accepted⟩
        · exact .inl rfl
        · exact .inr ⟨later, accepted⟩

/-- The server objects to no call or to the last one. -/
theorem unobjected_before : ∀ calls : List MailCall,
    (carryOut server calls).1.Pairwise fun a _ => server a.step = none
  | [] => .nil
  | first :: rest => by
    rw [carryOut]
    split
    · exact List.pairwise_singleton _ _
    · rename_i accepted
      exact List.pairwise_cons.mpr ⟨fun _ _ => accepted, unobjected_before rest⟩

theorem objection_eq_none_iff : ∀ {calls : List MailCall},
    (carryOut server calls).2 = none ↔ ∀ c ∈ calls, server c.step = none
  | [] => by simp [carryOut]
  | first :: rest => by
    rw [carryOut, List.forall_mem_cons]
    split
    · rename_i m objection
      simp [objection]
    · rename_i accepted
      simp [accepted, objection_eq_none_iff]

/-! ## Plans -/

/-- The connection is secured after it was made. -/
def SecuresLater (t : MailTransport) : Prop := t.port ≠ securedPort ∧ t.useTls = true

/-- There is a login by this name and this password. -/
def LogsInAs (t : MailTransport) (user password : String) : Prop :=
  (t.user = some user ∧ user ≠ "") ∧ t.password = some password ∧ password ≠ ""

/-- There is a login. -/
def LogsIn (t : MailTransport) : Prop := ∃ user password, t.LogsInAs user password

theorem given_eq_some_iff {s : Option String} {text : String} :
    Text.given s = some text ↔ s = some text ∧ text ≠ "" := by
  simp [Text.given_eq_some_iff]

theorem mem_plan_iff : call ∈ t.plan recipient ↔
    call = .connect (t.port == securedPort) t.host t.port t.timeout ∨
      (t.SecuresLater ∧ call = .secure) ∨
      (∃ user password, t.LogsInAs user password ∧ call = .logIn user password) ∨
      call = .send recipient := by
  unfold plan
  simp only [List.mem_append, List.mem_singleton, or_assoc]
  refine or_congr Iff.rfl (or_congr ?_ (or_congr ?_ Iff.rfl))
  · rw [SecuresLater, isSecuredFromStart]
    split <;> simp_all
  · simp only [LogsInAs, ← given_eq_some_iff]
    cases Text.given t.user <;> cases Text.given t.password <;> simp [and_assoc]

/-- What holds of all steps of a plan. -/
theorem forall_mem_plan_iff (P : MailStep → Prop) : (∀ c ∈ t.plan recipient, P c.step) ↔
    P .connect ∧ (t.SecuresLater → P .secure) ∧ (t.LogsIn → P .logIn) ∧ P .send := by
  simp only [mem_plan_iff]
  constructor
  · intro h
    exact ⟨h _ (.inl rfl), fun secures => h _ (.inr (.inl ⟨secures, rfl⟩)),
      fun ⟨user, password, logsIn⟩ => h _ (.inr (.inr (.inl ⟨user, password, logsIn, rfl⟩))),
      h _ (.inr (.inr (.inr rfl)))⟩
  · rintro ⟨connect, secure, logIn, send⟩ c
      (rfl | ⟨secures, rfl⟩ | ⟨user, password, logsIn, rfl⟩ | rfl)
    · exact connect
    · exact secure secures
    · exact logIn ⟨user, password, logsIn⟩
    · exact send

/-- A plan takes its steps in the order in which they are listed here, and leaves some out. -/
theorem steps_plan_sublist (t : MailTransport) (recipient : String) :
    ((t.plan recipient).map MailCall.step).Sublist [.connect, .secure, .logIn, .send] := by
  unfold plan
  split <;> split <;> simp [MailCall.step]

theorem ordered_plan (t : MailTransport) (recipient : String) : Ordered (t.plan recipient) := by
  have listed : [MailStep.connect, .secure, .logIn, .send].Pairwise fun a b => a.place < b.place := by
    decide
  exact List.pairwise_map (f := MailCall.step).mp (listed.sublist (t.steps_plan_sublist recipient))

/-! ## Conversations -/

/-- A conversation that hands over a mail for a recipient: when each call is made. -/
structure Conversation (t : MailTransport) (server : MailServer) (recipient : String)
    (calls : List MailCall) : Prop where
  /-- The steps are taken in order, none twice. -/
  ordered : Ordered calls
  /-- After an objection only the connection is given up. -/
  stops : calls.Pairwise fun a b => server a.step = none ∨ b = .quit
  /-- Every conversation begins with a connection, which one port secures from the start. -/
  connect_iff : ∀ secured host port timeout, .connect secured host port timeout ∈ calls ↔
    secured = (t.port == securedPort) ∧ host = t.host ∧ port = t.port ∧ timeout = t.timeout
  secure_iff : .secure ∈ calls ↔ t.SecuresLater ∧ server .connect = none
  logIn_iff : ∀ user password, .logIn user password ∈ calls ↔ t.LogsInAs user password ∧
    server .connect = none ∧ (t.SecuresLater → server .secure = none)
  send_iff : ∀ addressee, .send addressee ∈ calls ↔ addressee = recipient ∧
    server .connect = none ∧ (t.SecuresLater → server .secure = none) ∧
    (t.LogsIn → server .logIn = none)
  /-- A connection that was made is given up. -/
  quit_iff : .quit ∈ calls ↔ server .connect = none

theorem calls_converse (t : MailTransport) (server : MailServer) (r : Record)
    (recipient : String) : (t.converse server r recipient).1 =
      (carryOut server (t.plan recipient)).1 ++
        if server .connect = none then [.quit] else [] := by
  unfold converse
  rcases carryOut server (t.plan recipient) with ⟨made, objection⟩
  dsimp only
  split
  · rename_i objected
    have refused : server .connect ≠ none := Option.isSome_iff_ne_none.mp objected
    rw [if_neg refused, List.append_nil]
  · rename_i accepted
    have connected : server .connect = none := by simpa using accepted
    rw [if_pos connected]
    split
    · rfl
    · split <;> rfl

theorem mem_calls_converse_iff (r : Record) : call ∈ (t.converse server r recipient).1 ↔
    (call ∈ t.plan recipient ∧
      (MailStep.connect.place < call.step.place → server .connect = none) ∧
      (t.SecuresLater → MailStep.secure.place < call.step.place → server .secure = none) ∧
      (t.LogsIn → MailStep.logIn.place < call.step.place → server .logIn = none) ∧
      (MailStep.send.place < call.step.place → server .send = none)) ∨
    (call = .quit ∧ server .connect = none) := by
  rw [calls_converse, List.mem_append, mem_carryOut_iff (t.ordered_plan recipient),
    forall_mem_plan_iff fun step => step.place < call.step.place → server step = none]
  refine or_congr Iff.rfl ?_
  split <;> simp [*]

theorem pairwise_calls_converse {R : MailCall → MailCall → Prop} (r : Record)
    (made : (carryOut server (t.plan recipient)).1.Pairwise R)
    (last : ∀ c ∈ t.plan recipient, R c .quit) : (t.converse server r recipient).1.Pairwise R := by
  rw [calls_converse]
  split
  · have planned := (carryOut_sublist server (t.plan recipient)).subset
    refine List.pairwise_append.mpr ⟨made, List.pairwise_singleton _ _, fun c hc final hfinal => ?_⟩
    rw [List.mem_singleton.mp hfinal]
    exact last c (planned hc)
  · rwa [List.append_nil]

theorem conversation_converse (t : MailTransport) (server : MailServer) (r : Record)
    (recipient : String) :
    t.Conversation server recipient (t.converse server r recipient).1 where
  ordered := by
    have planned := (carryOut_sublist server (t.plan recipient)).sublist
    refine pairwise_calls_converse r ((t.ordered_plan recipient).sublist planned) ?_
    exact (forall_mem_plan_iff fun step => step.place < MailStep.quit.place).mpr
      (by simp [MailStep.place])
  stops := by
    refine pairwise_calls_converse r ?_ fun _ _ => .inr rfl
    exact (unobjected_before (t.plan recipient)).imp .inl
  connect_iff _ _ _ _ := by
    simp [mem_calls_converse_iff, mem_plan_iff, MailCall.step, MailStep.place]
  secure_iff := by simp [mem_calls_converse_iff, mem_plan_iff, MailCall.step, MailStep.place]
  logIn_iff _ _ := by
    simp [mem_calls_converse_iff, mem_plan_iff, MailCall.step, MailStep.place]
  send_iff _ := by simp [mem_calls_converse_iff, mem_plan_iff, MailCall.step, MailStep.place]
  quit_iff := by simp [mem_calls_converse_iff, mem_plan_iff]

/-- The mail is accepted if the server objects to no step that is due. -/
theorem answer_converse_ok_iff (r : Record)
    (quits : ∀ m, server .quit = some m → m.isInterrupt = false) :
    (t.converse server r recipient).2.answer = .ok () ↔
      server .connect = none ∧ (t.SecuresLater → server .secure = none) ∧
        (t.LogsIn → server .logIn = none) ∧ server .send = none := by
  rw [t.answer_converse quits, ← forall_mem_plan_iff fun s => server s = none,
    ← objection_eq_none_iff]
  cases (carryOut server (t.plan recipient)).2 <;> simp

namespace Conversation

variable {calls' : List MailCall}

theorem nodup_steps (c : t.Conversation server recipient calls) :
    (calls.map MailCall.step).Nodup :=
  List.pairwise_map.mpr (c.ordered.imp fun earlier same => by simp [same] at earlier)

theorem nodup (c : t.Conversation server recipient calls) : calls.Nodup :=
  c.ordered.imp fun earlier same => by simp [same] at earlier

/-- The server and the settings leave one conversation. -/
theorem unique (c : t.Conversation server recipient calls)
    (c' : t.Conversation server recipient calls') : calls = calls' := by
  have same : ∀ call, call ∈ calls ↔ call ∈ calls'
    | .connect .. => (c.connect_iff ..).trans (c'.connect_iff ..).symm
    | .secure => c.secure_iff.trans c'.secure_iff.symm
    | .logIn .. => (c.logIn_iff ..).trans (c'.logIn_iff ..).symm
    | .send _ => (c.send_iff _).trans (c'.send_iff _).symm
    | .quit => c.quit_iff.trans c'.quit_iff.symm
  have perm : calls.Perm calls' := (List.perm_ext_iff_of_nodup c.nodup c'.nodup).mpr same
  refine perm.eq_of_pairwise (fun a b _ _ earlier later => ?_) c.ordered c'.ordered
  exact absurd (Nat.lt_trans earlier later) (Nat.lt_irrefl _)

/-- Neither the password nor the mail is handed over before the connection is secured. -/
theorem secured (c : t.Conversation server recipient calls) (secures : t.SecuresLater)
    {before after : List MailCall} (h : calls = before ++ call :: after)
    (confides : call.step = .logIn ∨ call.step = .send) :
    .secure ∈ before ∧ server .secure = none := by
  have made : call ∈ calls := by simp [h]
  have ready : server .connect = none ∧ server .secure = none := by
    cases call with
    | logIn user password =>
      obtain ⟨-, connected, accepted⟩ := (c.logIn_iff user password).mp made
      exact ⟨connected, accepted secures⟩
    | send addressee =>
      obtain ⟨-, connected, accepted, -⟩ := (c.send_iff addressee).mp made
      exact ⟨connected, accepted secures⟩
    | _ => simp [MailCall.step] at confides
  refine ⟨?_, ready.2⟩
  have later : MailCall.secure.step.place < call.step.place := by
    rcases confides with step | step <;> rw [step] <;> decide
  have ordered := c.ordered
  have secure : .secure ∈ calls := c.secure_iff.mpr ⟨secures, ready.1⟩
  rw [h] at ordered secure
  -- What stands behind the call has a later step.
  rcases List.mem_append.mp secure with earlier | behind
  · exact earlier
  · have after_call := (List.pairwise_cons.mp (List.pairwise_append.mp ordered).2.1).1
    rcases List.mem_cons.mp behind with rfl | behind
    · exact absurd later (Nat.lt_irrefl _)
    · exact absurd (Nat.lt_trans later (after_call _ behind)) (Nat.lt_irrefl _)

end Conversation

/-! ## Attempts -/

/-- Without a mail for a record an attempt makes no call. Otherwise its calls are the conversation
that the settings and the server leave, and the attempt succeeds if the mail was handed over and the
server did not object to it, whatever becomes of giving up the connection. -/
theorem attempt_converses (t : MailTransport) (server : MailServer) (r : Record) :
    (∀ fault, MailAddress.normalize r.address = .error fault →
      t.message r = .error (.delivery (.badRecipient r.address fault.message))) ∧
    (∀ failure, t.message r = .error failure →
      t.attempt server r = ([], .quiet (.error failure))) ∧
    (∀ mail, t.message r = .ok mail → ∀ calls,
      t.Conversation server mail.recipient calls ↔ calls = (t.attempt server r).1) ∧
    ((t.attempt server r).1.map MailCall.step).Nodup ∧
    (t.SecuresLater → ∀ before call after, (t.attempt server r).1 = before ++ call :: after →
      call.step = .logIn ∨ call.step = .send → .secure ∈ before ∧ server .secure = none) ∧
    ((∀ m, server .quit = some m → m.isInterrupt = false) →
      ((t.attempt server r).2.answer = .ok () ↔
        (∃ addressee, .send addressee ∈ (t.attempt server r).1) ∧ server .send = none)) := by
  have unaddressed : ∀ fault, MailAddress.normalize r.address = .error fault →
      t.message r = .error (.delivery (.badRecipient r.address fault.message)) := by
    intro fault h
    simp only [message, messageWith, MailMessage.ofRecord, MailLibrary.standard, h]
    rfl
  refine ⟨unaddressed, ?_⟩
  cases hmessage : t.message r with
  | error failure =>
    have made : t.attempt server r = ([], .quiet (.error failure)) :=
      attemptWith_of_error hmessage server
    rw [made]
    refine ⟨?_, by rintro _ ⟨⟩, List.nodup_nil, ?_, ?_⟩
    · rintro _ ⟨⟩
      rfl
    · intro _ before call after h
      simp at h
    · simp
  | ok mail =>
    have made : t.attempt server r = t.converse server r mail.recipient :=
      attemptWith_of_ok hmessage server
    have c := t.conversation_converse server r mail.recipient
    rw [made]
    refine ⟨by rintro _ ⟨⟩, ?_, c.nodup_steps, ?_, ?_⟩
    · rintro _ ⟨⟩ calls
      exact ⟨fun c' => c'.unique c, fun h => h ▸ c⟩
    · exact fun secures before call after h => c.secured secures h
    · intro quits
      rw [answer_converse_ok_iff r quits]
      simp [c.send_iff, and_assoc]

/-- A mail is delivered over a connection that is secured later and cannot be given up properly. For
a record without an address nothing is called. -/
theorem attempt_converses_to_ada :
    let t : MailTransport := {
      host := "mail.example.com", port := 587, user := some "courier", password := some "secret",
      useTls := true, senderName := "Courier", senderAddress := none,
      timeout := .real (Double.ofInt 30), port_within := by decide }
    let server : MailServer := fun step =>
      if step = .quit then some ⟨.mailDisconnected, none⟩ else none
    let r := Record.fresh "n1" "ada@example.com" "offer-letter" Record.morning
    let unaddressed := Record.fresh "n2" "ada" "offer-letter" Record.morning
    let calls := [.connect false t.host 587 t.timeout, .secure, .logIn "courier" "secret",
      .send "ada@example.com", .quit]
    (∃ mail, t.message r = .ok mail ∧ t.Conversation server mail.recipient calls) ∧
      t.SecuresLater ∧ (∀ m, server .quit = some m → m.isInterrupt = false) ∧
      (t.attempt server r).1 = calls ∧ (t.attempt server r).2.answer = .ok () ∧
      ∃ failure, t.message unaddressed = .error failure ∧
        t.attempt server unaddressed = ([], .quiet (.error failure)) := by
  intro t server r unaddressed calls
  have recipient : (t.message r).toOption.map (·.recipient) = some "ada@example.com" := by
    decide +kernel
  have refused : (t.message unaddressed).toOption.isNone = true := by decide +kernel
  have quits : ∀ m, server .quit = some m → m.isInterrupt = false := by
    rintro _ ⟨⟩
    rfl
  obtain ⟨-, -, converses, -, -, succeeds⟩ := t.attempt_converses server r
  obtain ⟨-, silent, -⟩ := t.attempt_converses server unaddressed
  cases hmessage : t.message r with
  | error f => simp [hmessage, Except.toOption] at recipient
  | ok mail =>
    have hrecipient : mail.recipient = "ada@example.com" := by
      simpa [hmessage, Except.toOption] using recipient
    have made : (t.attempt server r).1 = calls := by
      rw [attempt, attemptWith_of_ok hmessage, hrecipient]
      rfl
    refine ⟨⟨mail, rfl, (converses mail hmessage calls).mpr made.symm⟩, ⟨by decide, rfl⟩, quits,
      made, (succeeds quits).mpr ⟨⟨"ada@example.com", ?_⟩, rfl⟩, ?_⟩
    · rw [made]
      simp [calls]
    · cases hunaddressed : t.message unaddressed with
      | ok mail => simp [hunaddressed, Except.toOption] at refused
      | error failure => exact ⟨failure, rfl, silent failure hunaddressed⟩

end MailTransport

end Courier
