/-
# A request that is answered at most once

A client asks a server for one value and waits.  The request may get lost, the
server may answer at any later time, and the client may give up at any time: then
the answer is never received.  In every run the client never ends with anything but
the answer to its own request (`received_own`).
-/

import Pidprobe.Lib.Simulation

namespace Pidprobe

variable {α : Type*}

namespace Request

/-- Where the client stands; it ends with an answer or without one, and stays there. -/
inductive Client (α : Type*)
  | idle
  | waiting
  | ended (answer : Option α)

/-- Where the server stands: not asked, asked, or through with its answer. -/
inductive Server (α : Type*)
  | idle
  | asked
  | answered (answer : α)

/-- A step of either side, or of what is between them. -/
inductive Event (α : Type*)
  | ask
  /-- The request gets lost. -/
  | drop
  | answer (a : α)
  | receive
  | giveUp

end Request

/-- A request, from both sides: one client, one server and one question. -/
structure Request (α : Type*) where
  client : Request.Client α
  server : Request.Server α

namespace Request

/-- Nothing has been asked. -/
def init : Request α := ⟨.idle, .idle⟩

/-- One step, which is refused where the side it is of is not ready for it. -/
def step (r : Request α) : Event α → Option (Request α)
  | .ask => match r with
    | ⟨.idle, .idle⟩ => some ⟨.waiting, .asked⟩
    | _ => none
  | .drop => match r.server with
    | .asked => some { r with server := .idle }
    | _ => none
  | .answer a => match r.server with
    | .asked => some { r with server := .answered a }
    | _ => none
  | .receive => match r with
    | ⟨.waiting, .answered a⟩ => some ⟨.ended (some a), .answered a⟩
    | _ => none
  | .giveUp => match r.client with
    | .ended _ => none
    | _ => some { r with client := .ended none }

/-- What each event needs and does, which is all that later proofs know of a step. -/
theorem step_cases {r r' : Request α} {e : Event α} (h : step r e = some r') :
    (e = .ask ∧ r.client = .idle ∧ r.server = .idle ∧ r' = ⟨.waiting, .asked⟩) ∨
    (e = .drop ∧ r.server = .asked ∧ r' = { r with server := .idle }) ∨
    (∃ a, e = .answer a ∧ r.server = .asked ∧ r' = { r with server := .answered a }) ∨
    (∃ a, e = .receive ∧ r.client = .waiting ∧ r.server = .answered a ∧
      r' = { r with client := .ended (some a) }) ∨
    (e = .giveUp ∧ (∀ a, r.client ≠ .ended a) ∧ r' = { r with client := .ended none }) := by
  obtain ⟨client, server⟩ := r
  cases e with
  | ask => cases client <;> cases server <;> simp_all [step]
  | drop => cases server <;> simp_all [step]
  | answer a => cases server <;> simp_all [step]
  | receive => cases client <;> cases server <;> simp_all [step]
  | giveUp => cases client <;> simp_all [step]

/-- The client has received nothing but what the server answered. -/
def Own (r : Request α) : Prop := ∀ a, r.client = .ended (some a) → r.server = .answered a

theorem Own.init : Own (Request.init : Request α) := nofun

/-- No step brings an answer from elsewhere: only the server makes one. -/
theorem Own.step {r r' : Request α} {e : Event α} (h : Own r) (hs : step r e = some r') :
    Own r' := by
  obtain ⟨-, -, -, rfl⟩ | ⟨-, hserver, rfl⟩ | ⟨b, -, hserver, rfl⟩ | ⟨b, -, -, hserver, rfl⟩ |
    ⟨-, -, rfl⟩ := step_cases hs
  · exact nofun
  · intro a ha
    exact absurd (hserver.symm.trans (h a ha)) (by simp)
  · intro a ha
    exact absurd (hserver.symm.trans (h a ha)) (by simp)
  · intro a ha
    obtain rfl : b = a := by simpa using ha
    exact hserver
  · exact nofun

/-- **A client receives the answer to its own request**, in every run from the start. -/
theorem received_own {es : List (Event α)} {r : Request α} (h : run step init es = some r) :
    Own r :=
  run_invariant (P := fun _ => True) (fun _ _ _ hr _ hs => hr.step hs) .init
    (fun _ _ => trivial) h

end Request
end Pidprobe
