import Courier.Dispatch.Call
import Courier.Proofs.Store.Failing

/-!
# Transport calls that nothing stops

Transports turn what goes wrong with a delivery into a report. What they let through stops the
program only if the mail server or the provider did, and no transport calls a delivery off
(`Transport.goesOn_call`).
-/

namespace Courier

/-- Nobody on the network stops the program. -/
structure Network.Uninterrupted (n : Network) : Prop where
  mail : ∀ step m, n.mail step = some m → m.isInterrupt = false
  provider : ∀ post m, n.provider post = .lost m → m.isInterrupt = false

namespace Completion

/-- A call comes to an end without being called off, and without stopping the program. -/
def GoesOn (c : Completion) : Prop := c ≠ .cancelled ∧ ∀ f, c = .raised f → f.isInterrupt = false

theorem goesOn_reported (report : Delivery) : GoesOn (.reported report) :=
  ⟨nofun, nofun⟩

theorem goesOn_ofReply {reply : Reply Delivery} (h : Harmless reply.answer) :
    GoesOn (ofReply reply).1 := by
  unfold ofReply
  split
  · exact goesOn_reported _
  · rename_i f hanswer
    refine ⟨nofun, fun g hg => ?_⟩
    cases hg
    exact h f hanswer

end Completion

theorem Delivery.harmless_ofReply {transport : String} {r : Record} {reply : Reply Unit}
    (h : Harmless reply.answer) : Harmless (ofReply transport r reply).answer := by
  unfold ofReply
  split
  · exact .ok _
  · exact .ok _
  · rename_i f _ hanswer
    exact .error (h f hanswer)

/-! ## Mails -/

theorem MailAddress.isInterrupt_of_senderMishap? {name : String} {m : Mishap}
    (h : senderMishap? name = some m) : m.isInterrupt = false := by
  unfold senderMishap? at h
  split at h
  · split at h <;> cases h
    rfl
  · dsimp only at h
    split at h
    · cases h
      rfl
    · split at h <;> cases h
      rfl

theorem MailAddress.isInterrupt_of_readSender {sender : String} {m : Mishap}
    (h : readSender sender = .error m) : m.isInterrupt = false := by
  simp only [readSender] at h
  split at h
  · rename_i befallen
    cases h
    exact isInterrupt_of_senderMishap? befallen
  · cases h

namespace MailLibrary

variable {library : MailLibrary}

/-- Nothing that befalls a library stops the program. -/
structure Uninterrupted (library : MailLibrary) : Prop where
  normalize : ∀ address m, library.normalize address = .error (.mishap m) → m.isInterrupt = false
  head : ∀ name value m, library.head name value = .error m → m.isInterrupt = false

theorem uninterrupted_standard : standard.Uninterrupted where
  normalize address m h := by
    simp only [standard] at h
    cases hnormal : MailAddress.normalize address <;> rw [hnormal] at h <;> cases h
  head name value m h := by
    simp only [standard] at h
    split at h
    · exact MailAddress.isInterrupt_of_readSender h
    · cases h

theorem Uninterrupted.harmless_line (u : library.Uninterrupted) (name value : String) :
    Harmless (library.line name value) := by
  unfold line
  split
  · cases h : library.head name value with
    | error m => exact .error (u.head name value m h)
    | ok shown => exact .ok shown
  · exact .error rfl

theorem Uninterrupted.harmless_ofRecord (u : library.Uninterrupted) (sender : String)
    (r : Record) : Harmless (MailMessage.ofRecord library sender r) := by
  unfold MailMessage.ofRecord
  split
  · exact .error rfl
  · rename_i m h
    exact .error (u.normalize r.address m h)
  · exact .bind (u.harmless_line _ _) fun _ => .bind (u.harmless_line _ _) fun _ =>
      .bind (u.harmless_line _ _) fun _ => .bind (u.harmless_line _ _) fun _ => .ok _

end MailLibrary

namespace MailTransport

variable {server : MailServer} {m : Mishap}

theorem isInterrupt_failureOf (h : m.isInterrupt = false) : (failureOf m).isInterrupt = false := by
  unfold failureOf
  split
  · rfl
  · split
    · rfl
    · exact h

/-- What ends a conversation is an objection of the server. -/
theorem exists_step_of_carryOut : ∀ {calls : List MailCall},
    (carryOut server calls).2 = some m → ∃ step, server step = some m
  | [], h => by cases h
  | call :: rest, h => by
    rw [carryOut] at h
    split at h
    · rename_i objection hstep
      cases h
      exact ⟨call.step, hstep⟩
    · exact exists_step_of_carryOut h

/-- If giving up the connection stops nothing, a conversation comes to what the first objection says. -/
theorem answer_converse (t : MailTransport) (quits : ∀ m, server .quit = some m →
    m.isInterrupt = false) (r : Record) (recipient : String) :
    (t.converse server r recipient).2.answer =
      (carryOut server (t.plan recipient)).2.elim (.ok ()) fun m => .error (failureOf m) := by
  unfold converse
  rcases carryOut server (t.plan recipient) with ⟨made, objection⟩
  dsimp only
  split
  · cases objection <;> rfl
  · split
    · cases objection <;> rfl
    · rename_i m hquit
      rw [quits m hquit]
      cases objection <;> rfl

theorem harmless_converse (t : MailTransport) (u : ∀ step m, server step = some m →
    m.isInterrupt = false) (r : Record) (recipient : String) :
    Harmless (t.converse server r recipient).2.answer := by
  rw [t.answer_converse (u .quit)]
  cases hobjection : (carryOut server (t.plan recipient)).2 with
  | none => exact .ok ()
  | some m =>
    obtain ⟨step, hstep⟩ := exists_step_of_carryOut hobjection
    exact .error (isInterrupt_failureOf (u step m hstep))

theorem harmless_attempt (t : MailTransport) (u : ∀ step m, server step = some m →
    m.isInterrupt = false) (r : Record) : Harmless (t.attempt server r).2.answer := by
  unfold attempt attemptWith
  split
  · rename_i f hmessage
    exact .error (MailLibrary.uninterrupted_standard.harmless_ofRecord t.sender r f hmessage)
  · exact t.harmless_converse u r _

theorem harmless_deliver (t : MailTransport) (u : ∀ step m, server step = some m →
    m.isInterrupt = false) (r : Record) : Harmless (t.deliver server r).answer :=
  Delivery.harmless_ofReply (t.harmless_attempt u r)

end MailTransport

namespace ProviderTransport

variable {answer : Post → ProviderAnswer}

theorem harmless_judge (t : ProviderTransport) (r : Record) {said : ProviderAnswer}
    (u : ∀ m, said = .lost m → m.isInterrupt = false) : Harmless (t.judge r said).answer := by
  unfold judge
  split
  · split
    · exact .ok _
    · exact .error rfl
  · rename_i m
    split
    · exact .error rfl
    · split
      · exact .error rfl
      · exact .error (f := .mishap m) (u m rfl)

theorem harmless_deliver (t : ProviderTransport)
    (u : ∀ post m, answer post = .lost m → m.isInterrupt = false) (r : Record) :
    Harmless (t.deliver answer r).answer :=
  Delivery.harmless_ofReply (t.harmless_judge r (u (t.post r)))

end ProviderTransport

/-- A call over a network that stops nothing goes on to its end. -/
theorem Transport.goesOn_call (t : Transport) {network : Network} (u : network.Uninterrupted)
    (timeout : Number) (r : Record) : (t.call network timeout r).1.GoesOn := by
  cases t with
  | mail t => exact Completion.goesOn_ofReply (t.harmless_deliver u.mail r)
  | provider t => exact Completion.goesOn_ofReply (t.harmless_deliver u.provider r)
  | log => exact Completion.goesOn_reported _
  | simulated t =>
    rw [call]
    split
    · refine ⟨?_, ?_⟩ <;> simp
    · exact Completion.goesOn_reported _

end Courier
