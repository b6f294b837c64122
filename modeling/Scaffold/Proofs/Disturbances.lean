import Scaffold.Proofs.ScriptRuns

/-!
# Runs that are disturbed

More can happen to a run than its world tells. A request may be answered in another way, as on a
disk that is full or keeps a folder closed, or after somebody else has changed the disk; and a run may
be broken off at a request by an exception that the step at hand does not expect, as for a name that
is too long to be looked up, an answer of the user that is no text, or a limit of the machine.
Whatever happens to it, a script ends and fails only in the ways that are written down in it; and
where nothing happens to any of its requests, it runs as in its world.
-/

namespace Scaffold

/-- What happens to a request in place of the answer of the world: another answer and another world,
or an exception that breaks the run off. -/
abbrev Disturbance (ε : Type) :=
  World → (r : Request) → Option (Except ε (r.Reply × World))

namespace Script

variable {α β ε : Type} {d : Disturbance ε} {s : Script α} {w : World}

/-- The outcome of a script that is disturbed, and the world it leaves. -/
def runUnder (d : Disturbance ε) : Script α → World → Except (ε ⊕ Failure) α × World
  | .done a, w => (.ok a, w)
  | .fail e, w => (.error (.inr e), w)
  | .ask r next, w =>
    match d w r with
    | none => (next (w.answer r).1).runUnder d (w.answer r).2
    | some (.ok (reply, v)) => (next reply).runUnder d v
    | some (.error x) => (.error (.inl x), w)

/-- Whatever the answers are, a result of the script has the property. -/
inductive Gives (p : α → Prop) : Script α → Prop where
  | done {a : α} (ha : p a) : Gives p (.done a)
  | fail (e : Failure) : Gives p (.fail e)
  | ask {r : Request} {next : r.Reply → Script α} (hn : ∀ reply, Gives p (next reply)) :
      Gives p (.ask r next)

namespace Gives

variable {p : α → Prop}

theorem pure {a : α} (ha : p a) : (Pure.pure a : Script α).Gives p :=
  .done ha

theorem bind (s : Script β) {f : β → Script α} (hf : ∀ b, (f b).Gives p) : (s >>= f).Gives p := by
  change (s.bind f).Gives p
  induction s with
  | done b => exact hf b
  | fail e => exact .fail e
  | ask r next ih => exact .ask ih

theorem rescue {handler : Failure → Script α} (hs : s.Gives p) (hh : ∀ e, (handler e).Gives p) :
    (s.rescue handler).Gives p := by
  induction hs with
  | done ha => exact .done ha
  | fail e => exact hh e
  | ask _ ih => exact .ask ih

end Gives

end Script

end Scaffold
