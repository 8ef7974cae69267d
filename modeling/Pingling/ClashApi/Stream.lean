import Pingling.ClashApi.Client
import Pingling.ClashApi.Snapshots

/-!
# Receiving snapshots

A stream of snapshots is a WebSocket whose messages are documents. What the socket answers to each
reading and to each sending is a parameter. Every answer that says something to the caller is
returned by one call of `recv`, in order, and every ping is answered before the calls go on.
-/

namespace Pingling.ClashApi
open Lib

/-- The messages of a WebSocket. -/
inductive WsMessage where
  | text (text : String)
  | binary (bytes : List UInt8)
  | ping (payload : List UInt8)
  | pong (payload : List UInt8)
  | close
  | frame (bytes : List UInt8)
  deriving DecidableEq

/-- What the next readings of a socket answer, and what it has been given to send. -/
@[ext] structure WebSocket (F : Type) where
  incoming : List (Except F WsMessage)
  sent : List WsMessage

namespace JsonWebSocketStream

variable {F T : Type} (fromStr : String → Except F T) (fromSlice : List UInt8 → Except F T)
  (send : List WsMessage → Except F Unit)

/-- `recv`, of a socket that answers the sending of the last of some messages with `send`. It does
not return while there is nothing to read. -/
def recvFrom : List (Except F WsMessage) → List WsMessage →
    Option (Except (ClashApiError F) T × WebSocket F)
  | [], _ => none
  | .error e :: incoming, sent => some (.error (.webSocket e), ⟨incoming, sent⟩)
  | .ok (.text text) :: incoming, sent => some ((fromStr text).mapError .json, ⟨incoming, sent⟩)
  | .ok (.binary bytes) :: incoming, sent =>
    some ((fromSlice bytes).mapError .json, ⟨incoming, sent⟩)
  | .ok (.ping payload) :: incoming, sent =>
    match send (sent ++ [.pong payload]) with
    | .ok () => recvFrom incoming (sent ++ [.pong payload])
    | .error e => some (.error (.webSocket e), ⟨incoming, sent ++ [.pong payload]⟩)
  | .ok (.pong _) :: incoming, sent => recvFrom incoming sent
  | .ok .close :: incoming, sent =>
    some (.error (.protocol "clash websocket closed"), ⟨incoming, sent⟩)
  | .ok (.frame _) :: incoming, sent => recvFrom incoming sent

/-- Reads messages until there is one to hand on, an error, or the end of the stream. -/
def recv (socket : WebSocket F) : Option (Except (ClashApiError F) T × WebSocket F) :=
  recvFrom fromStr fromSlice send socket.incoming socket.sent

/-- The results of some calls of `recv`, one after the other. -/
def recvs : ℕ → WebSocket F → Option (List (Except (ClashApiError F) T) × WebSocket F)
  | 0, socket => some ([], socket)
  | n + 1, socket => do
    let (result, socket) ← recv fromStr fromSlice send socket
    let (results, socket) ← recvs n socket
    return (result :: results, socket)

/-- The pong for a ping. -/
def pong? : Except F WsMessage → Option WsMessage
  | .ok (.ping payload) => some (.pong payload)
  | _ => none

/-- What an answer of the socket says to the caller, after some messages were sent. -/
def outcome (sent : List WsMessage) : Except F WsMessage → Option (Except (ClashApiError F) T)
  | .error e => some (.error (.webSocket e))
  | .ok (.text text) => some ((fromStr text).mapError .json)
  | .ok (.binary bytes) => some ((fromSlice bytes).mapError .json)
  | .ok (.ping payload) =>
    match send (sent ++ [.pong payload]) with
    | .ok () => none
    | .error e => some (.error (.webSocket e))
  | .ok .close => some (.error (.protocol "clash websocket closed"))
  | .ok (.pong _) | .ok (.frame _) => none

def outcomes : List WsMessage → List (Except F WsMessage) → List (Except (ClashApiError F) T)
  | _, [] => []
  | sent, answer :: incoming =>
    (outcome fromStr fromSlice send sent answer).toList ++
      outcomes (sent ++ (pong? answer).toList) incoming

variable {fromStr fromSlice send}

/-- The socket after an answer that says something. -/
lemma recvFrom_cons (answer : Except F WsMessage) (incoming : List (Except F WsMessage))
    (sent : List WsMessage) :
    recvFrom fromStr fromSlice send (answer :: incoming) sent =
      match outcome fromStr fromSlice send sent answer with
      | some result => some (result, ⟨incoming, sent ++ (pong? answer).toList⟩)
      | none => recvFrom fromStr fromSlice send incoming (sent ++ (pong? answer).toList) := by
  rcases answer with e | message
  · simp [recvFrom, outcome, pong?]
  · cases message with
    | ping payload =>
      simp only [recvFrom, outcome, pong?, Option.toList_some]
      cases send (sent ++ [.pong payload]) <;> rfl
    | _ => simp [recvFrom, outcome, pong?]

lemma outcomes_append (sent : List WsMessage) (before after : List (Except F WsMessage)) :
    outcomes fromStr fromSlice send sent (before ++ after) =
      outcomes fromStr fromSlice send sent before ++
        outcomes fromStr fromSlice send (sent ++ before.filterMap pong?) after := by
  induction before generalizing sent with
  | nil => simp [outcomes]
  | cons answer before ih =>
    rw [List.cons_append, outcomes, outcomes, ih, List.append_assoc, List.append_assoc]
    congr 3
    cases hpong : pong? answer <;> simp [hpong]

/-- A call goes on to the first answer that says something. -/
lemma recvFrom_eq_some {incoming : List (Except F WsMessage)} {sent : List WsMessage}
    {result : Except (ClashApiError F) T} {socket : WebSocket F}
    (h : recvFrom fromStr fromSlice send incoming sent = some (result, socket)) :
    ∃ skipped answer, incoming = skipped ++ answer :: socket.incoming ∧
      outcomes fromStr fromSlice send sent skipped = [] ∧
      outcome fromStr fromSlice send (sent ++ skipped.filterMap pong?) answer = some result ∧
      socket.sent = sent ++ (skipped ++ [answer]).filterMap pong? := by
  induction incoming generalizing sent with
  | nil => cases h
  | cons answer incoming ih =>
    rw [recvFrom_cons] at h
    cases houtcome : outcome fromStr fromSlice send sent answer with
    | some result' =>
      rw [houtcome] at h
      obtain ⟨rfl, rfl⟩ := Prod.mk.inj (Option.some.inj h)
      refine ⟨[], answer, rfl, rfl, by simpa using houtcome, ?_⟩
      cases hpong : pong? answer <;> simp [hpong]
    | none =>
      rw [houtcome] at h
      obtain ⟨skipped, answer', rfl, hskipped, hresult, hsent⟩ := ih h
      have hpongs : sent ++ (answer :: skipped).filterMap pong? =
          sent ++ (pong? answer).toList ++ skipped.filterMap pong? := by
        cases hpong : pong? answer <;> simp [hpong]
      refine ⟨answer :: skipped, answer', rfl, ?_, ?_, ?_⟩
      · rw [outcomes, houtcome, hskipped]
        rfl
      · rw [hpongs]
        exact hresult
      · rw [hsent, List.filterMap_append, List.filterMap_append, ← List.append_assoc,
          ← List.append_assoc, hpongs]

/-- A call waits when nothing that is said is left. -/
lemma recvFrom_eq_none {incoming : List (Except F WsMessage)} {sent : List WsMessage} :
    recvFrom fromStr fromSlice send incoming sent = none ↔
      outcomes fromStr fromSlice send sent incoming = [] := by
  induction incoming generalizing sent with
  | nil => exact iff_of_true rfl rfl
  | cons answer incoming ih =>
    rw [recvFrom_cons, outcomes]
    cases outcome fromStr fromSlice send sent answer with
    | some result => exact iff_of_false (Option.some_ne_none _) (List.cons_ne_nil _ _)
    | none => exact ih

/-- What is said up to the end of a call, and what is said after it. -/
lemma outcomes_step {sent : List WsMessage} {skipped : List (Except F WsMessage)}
    {answer : Except F WsMessage} {result : Except (ClashApiError F) T}
    (hskipped : outcomes fromStr fromSlice send sent skipped = [])
    (hresult : outcome fromStr fromSlice send (sent ++ skipped.filterMap pong?) answer =
      some result) (rest : List (Except F WsMessage)) :
    outcomes fromStr fromSlice send sent (skipped ++ answer :: rest) =
      result :: outcomes fromStr fromSlice send
        (sent ++ (skipped ++ [answer]).filterMap pong?) rest := by
  rw [outcomes_append, hskipped, outcomes, hresult, List.filterMap_append, ← List.append_assoc]
  cases hpong : pong? answer <;> simp [hpong]

lemma recvs_succ {socket next : WebSocket F} {result : Except (ClashApiError F) T}
    (h : recv fromStr fromSlice send socket = some (result, next)) (n : ℕ) :
    recvs fromStr fromSlice send (n + 1) socket =
      (recvs fromStr fromSlice send n next).map (Prod.map (result :: ·) id) := by
  rw [recvs, h]
  simp only [Option.bind_eq_bind, Option.bind_some]
  cases recvs fromStr fromSlice send n next <;> rfl

/-- Whatever the socket answers, the calls of `recv` return what its answers say, in order and each
once. Every ping up to the last of these has got its pong, in order, and nothing more was read. A
call waits only when all has been returned. -/
theorem recvs_outcomes (n : ℕ) (socket : WebSocket F) :
    (recvs fromStr fromSlice send n socket = none ↔
      (outcomes fromStr fromSlice send socket.sent socket.incoming).length < n) ∧
    ∀ results socket', recvs fromStr fromSlice send n socket = some (results, socket') →
      results.length = n ∧
      ∃ consumed, socket.incoming = consumed ++ socket'.incoming ∧
        outcomes fromStr fromSlice send socket.sent consumed = results ∧
        socket'.sent = socket.sent ++ consumed.filterMap pong? ∧
        (consumed = [] ∨
          (outcomes fromStr fromSlice send socket.sent consumed.dropLast).length < n) := by
  induction n generalizing socket with
  | zero =>
    refine ⟨iff_of_false (Option.some_ne_none _) (Nat.not_lt_zero _), ?_⟩
    rintro results socket' h
    obtain ⟨rfl, rfl⟩ := Prod.mk.inj (Option.some.inj h)
    exact ⟨rfl, [], rfl, rfl, (List.append_nil _).symm, Or.inl rfl⟩
  | succ n ih =>
    cases hrecv : recv fromStr fromSlice send socket with
    | none =>
      have hrecvs : recvs fromStr fromSlice send (n + 1) socket = none := by
        rw [recvs, hrecv]
        rfl
      rw [hrecvs, recvFrom_eq_none.mp hrecv]
      exact ⟨iff_of_true rfl (Nat.succ_pos n), fun _ _ h => by cases h⟩
    | some found =>
      obtain ⟨result, next⟩ := found
      obtain ⟨skipped, answer, hincoming, hskipped, hresult, hsent⟩ := recvFrom_eq_some hrecv
      have hstep := outcomes_step hskipped hresult
      rw [← hsent] at hstep
      obtain ⟨hwait, hsome⟩ := ih next
      rw [recvs_succ hrecv n]
      refine ⟨?_, fun results socket' h => ?_⟩
      · rw [Option.map_eq_none_iff, hwait, hincoming, hstep, List.length_cons]
        omega
      · obtain ⟨⟨results', last⟩, hrun, heq⟩ := Option.map_eq_some_iff.mp h
        obtain ⟨rfl, rfl⟩ := Prod.mk.inj heq
        obtain ⟨hlength, consumed, hnext, hresults, hpongs, hminimal⟩ := hsome _ _ hrun
        refine ⟨congrArg Nat.succ hlength, skipped ++ answer :: consumed, ?_, ?_, ?_, Or.inr ?_⟩
        · rw [hincoming, hnext, List.append_assoc, List.cons_append, id]
        · rw [hstep, hresults]
        · rw [id, hpongs, hsent, List.append_assoc, ← List.filterMap_append, List.append_assoc,
            List.singleton_append]
        · rw [List.dropLast_append_of_ne_nil (List.cons_ne_nil _ _)]
          cases consumed with
          | nil =>
            rw [List.dropLast_singleton, List.append_nil, hskipped]
            exact Nat.succ_pos n
          | cons first consumed =>
            have hfewer := hminimal.resolve_left (List.cons_ne_nil _ _)
            rw [List.dropLast_cons_of_ne_nil (List.cons_ne_nil _ _), hstep, List.length_cons]
            omega

end JsonWebSocketStream
end Pingling.ClashApi
