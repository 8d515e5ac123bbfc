import ConfigDelivery.Http.Server
import ConfigDelivery.Proofs.Basic.Simulation
/-!
# Who is let in

Connections are counted from when they come until they are done with. The count is the number of
those in service, whatever comes and goes, so no more are served at a time than may be, and one that
comes is turned away only when so many are. What is said on a connection in service is left to the
request, unless a stranger has come to the machine's own address.
-/

namespace ConfigDelivery.Http

open ConfigDelivery.Delivery (Components World)

/-! ## The bound on connections -/

/-- What the thread that receives connections hears of: one comes, or one is done with. -/
inductive Arrival where
  | comes (number : Nat)
  | ends (number : Nat)
  deriving DecidableEq, Repr

namespace Reception

/-- What a reception makes of what it hears, and the response that turns a connection away. -/
def hear : Machine Reception Arrival (Option Response)
  | reception, .comes number => reception.receive number
  | reception, .ends number => (none, reception.dismiss number)

/-- The connections that are counted are those in service, and there are no more than may be. -/
structure IsCounted (reception : Reception) (limit : Nat) : Prop where
  sameLimit : reception.connections.limit = limit
  active : reception.connections.active = reception.inService.length
  bounded : reception.inService.length ≤ limit

variable {reception : Reception} {limit : Nat}

theorem isCounted_new (limit : Nat) : (new limit).IsCounted limit := ⟨rfl, rfl, Nat.zero_le _⟩

/-- With a place left, a connection is served. -/
theorem IsCounted.receive_of_lt (counted : reception.IsCounted limit)
    (room : reception.inService.length < limit) (number : Nat) :
    (reception.receive number).1 = none ∧
    (reception.receive number).2.inService = reception.inService ++ [number] ∧
    (reception.receive number).2.IsCounted limit := by
  have acquired : reception.connections.acquire?
      = some { reception.connections with active := reception.connections.active + 1 } := by
    rw [Connections.acquire?, if_pos (by rw [counted.active, counted.sameLimit]; exact room)]
  unfold receive
  rw [acquired]
  refine ⟨rfl, rfl, counted.sameLimit, ?_, ?_⟩
  · simp only [List.length_append, List.length_singleton, counted.active]
  · simp only [List.length_append, List.length_singleton]
    exact room

/-- With no place left, a connection is turned away, and nothing else happens. -/
theorem IsCounted.receive_of_full (counted : reception.IsCounted limit)
    (full : reception.inService.length = limit) (number : Nat) :
    reception.receive number = (some ⟨.busy, none⟩, reception) := by
  have refused : reception.connections.acquire? = none := by
    rw [Connections.acquire?, if_neg]
    rw [counted.active, counted.sameLimit, full]
    exact Nat.lt_irrefl _
  rw [receive, refused]

/-- A connection that is done with gives its place back. -/
theorem IsCounted.dismiss (counted : reception.IsCounted limit) (number : Nat) :
    (reception.dismiss number).IsCounted limit := by
  unfold Reception.dismiss
  by_cases serves : number ∈ reception.inService
  · rw [if_pos serves]
    have shorter := List.length_erase_of_mem serves
    refine ⟨counted.sameLimit, ?_, ?_⟩
    · rw [Connections.release, counted.active, shorter]
    · rw [shorter]
      exact Nat.le_trans (Nat.sub_le ..) counted.bounded
  · rw [if_neg serves]
    exact counted

/-- Whatever a reception hears, the count stays right. -/
theorem IsCounted.hear (counted : reception.IsCounted limit) (arrival : Arrival) :
    (reception.hear arrival).2.IsCounted limit := by
  cases arrival with
  | ends number => exact counted.dismiss number
  | comes number =>
    rcases Nat.lt_or_eq_of_le counted.bounded with room | full
    · exact (counted.receive_of_lt room number).2.2
    · change (reception.receive number).2.IsCounted limit
      rw [counted.receive_of_full full]
      exact counted

/-- Whatever came and went before, no more connections are in service than may be. One that comes
then is turned away exactly when so many are, and changes nothing then; one that is done with leaves
its place to the next. -/
theorem hear_after (limit : Nat) (arrivals : List Arrival) :
    let reached := Machine.after hear (new limit) arrivals
    reached.inService.length ≤ limit ∧
    (∀ number, ((reached.receive number).1 = none ↔ reached.inService.length < limit) ∧
      ((reached.receive number).1 ≠ none →
        reached.receive number = (some ⟨.busy, none⟩, reached))) ∧
    ∀ done ∈ reached.inService, ∀ number,
      ((reached.dismiss done).receive number).1 = none := by
  intro reached
  have counted : reached.IsCounted limit := by
    exact @Machine.after_induction _ _ _ hear (·.IsCounted limit)
      (fun arrival counted => counted.hear arrival) _ (isCounted_new limit) arrivals
  refine ⟨counted.bounded, fun number => ?_, fun done serves number => ?_⟩
  · rcases Nat.lt_or_eq_of_le counted.bounded with room | full
    · obtain ⟨served, -⟩ := counted.receive_of_lt room number
      exact ⟨iff_of_true served room, fun refused => absurd served refused⟩
    · have refused := counted.receive_of_full full number
      refine ⟨iff_of_false ?_ (Nat.not_lt.mpr (Nat.le_of_eq full.symm)), fun _ => refused⟩
      rw [refused]
      exact Option.some_ne_none _
  · have shorter : (reached.dismiss done).inService.length < limit := by
      have positive : 0 < reached.inService.length := List.length_pos_of_mem serves
      rw [dismiss, if_pos serves, List.length_erase_of_mem serves]
      exact Nat.lt_of_lt_of_le (Nat.sub_lt positive Nat.one_pos) counted.bounded
    exact ((counted.dismiss done).receive_of_lt shorter number).1

end Reception

/-! ## Strangers -/

variable {Stored Kept Engines : Type}

/-- On the machine's own address a connection from elsewhere is refused, whatever is said on it, and
changes nothing. Everyone else is answered as their stream asks. -/
theorem serveConnection_eq (settings : Settings) (components : Components Stored Kept Engines)
    (connection : Connection) (world : World Stored Kept Engines) :
    (connection.own.isLoopback = true ∧ connection.peer.isLoopback = false →
      serveConnection settings components connection world = (⟨.forbidden, none⟩, world)) ∧
    (connection.own.isLoopback = false ∨ connection.peer.isLoopback = true →
      serveConnection settings components connection world
        = respond settings components (readRequest connection.pieces) world) := by
  unfold serveConnection isStrange
  refine ⟨?_, ?_⟩
  · rintro ⟨own, peer⟩
    rw [own, peer]
    rfl
  · rintro (own | peer)
    · rw [own]
      rfl
    · rw [peer, Bool.not_true, Bool.and_false]
      rfl

end ConfigDelivery.Http
