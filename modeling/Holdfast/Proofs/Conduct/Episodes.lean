import Holdfast.Proofs.Interleaving.Run

/-!
# Histories in which one thing happens after the other

An episode is a call that runs from beginning to end, or something that happens outside. A history is a
list of episodes: `World.episodes` gives what its calls are answered and the world that is left.
-/

namespace Holdfast.Reservation

/-- Something that happens while nothing else goes on. -/
inductive Episode where
  | call (c : Call)
  | outside (move : Move)

/-- Who gets a hold by a call, if anybody does. -/
def Call.claimant? : Call → Option Claimant
  | acquire _ claimant _ => some claimant
  | acquireForSession _ holder session => some { holder, session := some session }
  | _ => none

/-- Who gets a hold in an episode, if anybody does. -/
def Episode.claimant? : Episode → Option Claimant
  | call c => c.claimant?
  | outside _ => none

/-- The episode adds no slot to the catalogue, and replaces none. -/
def Episode.KeepsSlots (t : Episode) : Prop := ∀ r, t ≠ outside (.insert r)

/-- The world goes through an episode, and answers the call of it. -/
def World.episode (policy : Policy) (w : World) : Episode → Option (Except Failure Answer) × World
  | .call c => (w.run (c.program policy)).map some id
  | .outside move => (none, w.drift move)

/-- The world goes through some episodes, one after the other. -/
def World.episodes (policy : Policy) (w : World) :
    List Episode → List (Option (Except Failure Answer)) × World
  | [] => ([], w)
  | t :: rest => ((w.episode policy t).2.episodes policy rest).map ((w.episode policy t).1 :: ·) id

/-- A call whose run is known, and what comes after it. -/
theorem World.episodes_call {policy : Policy} {w w' : World} {c : Call} {r : Except Failure Answer}
    (run : w.run (c.program policy) = (r, w')) (rest : List Episode) :
    w.episodes policy (.call c :: rest) = (w'.episodes policy rest).map (some r :: ·) id := by
  have episode : w.episode policy (.call c) = (some r, w') := congrArg (Prod.map some id) run
  rw [episodes, episode]

end Holdfast.Reservation
