import BankingBackend.Foundation.Monitor

/-! # Programs in another environment

A program written for one environment runs in another one that understands each of its
requests. What it does there is what a monitor of its own requests says.
-/

namespace BankingBackend.Foundation

/-- Each request of one environment as a request of another, and what its answer means. -/
structure Translation (inner outer : Interface) where
  op : inner.Op → outer.Op
  answer : (request : inner.Op) → outer.Answer (op request) → inner.Answer request

variable {inner outer : Interface} {Track α : Type}

def Program.through (translation : Translation inner outer) : Program inner α → Program outer α
  | .done value => .done value
  | .call op next => .call (translation.op op) fun answer =>
      (next (translation.answer op answer)).through translation

namespace Monitor

def comap (monitor : Monitor outer Track) (translation : Translation inner outer) :
    Monitor inner Track where
  permits track op := monitor.permits track (translation.op op)
  moves track op answer following := ∃ reply, translation.answer op reply = answer ∧
    monitor.moves track (translation.op op) reply following

theorem Follows.through {monitor : Monitor outer Track} {translation : Translation inner outer}
    {post : α → Track → Prop} {program : Program inner α} {track : Track}
    (follows : (monitor.comap translation).Follows post program track) :
    monitor.Follows post (program.through translation) track := by
  induction program generalizing track with
  | done value => exact follows
  | call op next induction =>
      refine ⟨follows.1, fun reply following moves => ?_⟩
      exact induction _ (follows.2 _ following ⟨reply, rfl, moves⟩)

end Monitor

end BankingBackend.Foundation
