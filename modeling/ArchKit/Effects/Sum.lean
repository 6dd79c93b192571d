import ArchKit.Effects.Lift

/-! Programs that make requests of two kinds, and those of one kind among them. -/

namespace Effects
variable {I J : Interface} {σ δ α β ε : Type}

/-- The requests of two interfaces. -/
def Interface.sum (I J : Interface) : Interface where
  Request := I.Request ⊕ J.Request
  Reply
    | .inl operation => I.Reply operation
    | .inr operation => J.Reply operation

/-- A server for both kinds, as programs of the first kind see it. -/
def Server.left (server : Server (I.sum J) δ) : Server I δ := fun before operation reply after =>
  server before (.inl operation) reply after

namespace Program

/-- A program of the first kind among programs of both. -/
def left (J : Interface) : Program I α → Program (I.sum J) α
  | .pure value => .pure value
  | .request operation next => .request (I := I.sum J) (.inl operation) fun reply => left J (next reply)

theorem left_bind {program : Program I α} {next : α → Program I β} :
    (program.bind next).left J = (program.left J).bind fun value => (next value).left J := by
  induction program with
  | pure value => rfl
  | request operation rest ih =>
    simp only [bind, left]
    congr 1
    funext reply
    exact ih reply

theorem ensures_left {server : Server (I.sum J) δ} {post : α → δ → Prop} {program : Program I α} {state : δ} :
    Ensures server (program.left J) post state ↔ Ensures server.left program post state := by
  induction program generalizing state with
  | pure value => exact Iff.rfl
  | request operation next ih =>
    exact forall_congr' fun reply => forall_congr' fun after => imp_congr_right fun _ => ih reply

end Program

namespace Fallible

abbrev left (J : Interface) (program : Fallible I ε α) : Fallible (I.sum J) ε α := ExceptT.mk (Program.left J (ExceptT.run program))

theorem left_bind {program : Fallible I ε α} {next : α → Fallible I ε β} :
    (program >>= next).left J = program.left J >>= fun value => (next value).left J := by
  apply ExceptT.ext
  rw [ExceptT.run_bind]
  change Program.left J (Program.bind (ExceptT.run program) _) = Program.bind (Program.left J (ExceptT.run program)) _
  rw [Program.left_bind]
  congr 1
  funext outcome
  cases outcome with
  | ok value => rfl
  | error error => rfl

theorem ensures_left {server : Server (I.sum J) δ} {post : Except ε α → δ → Prop} {program : Fallible I ε α} {state : δ} :
    Ensures server (program.left J) post state ↔ Ensures server.left program post state := Program.ensures_left

end Fallible
end Effects
