import SignIn.Error

/-!
# Running steps that may fail

Sign-ins, logins and the making of strategies are put together from steps that have a state and may
fail. A step is followed by the next one in the state that it leaves, unless it fails: a failure ends
the whole and keeps what has been done.
-/

namespace SignIn

variable {σ α β : Type} {step : ExceptT Failure (StateM σ) α}
  {next : α → ExceptT Failure (StateM σ) β} {s after : σ}

/-- The next step runs in the state that a step leaves. -/
theorem run_bind_ok {a : α} (h : (ExceptT.run step).run s = (.ok a, after)) :
    (ExceptT.run (step >>= next)).run s = (ExceptT.run (next a)).run after := by
  rw [ExceptT.run_bind, StateT.run_bind, h]
  rfl

/-- No step runs after a failure. -/
theorem run_bind_error {failure : Failure}
    (h : (ExceptT.run step).run s = (.error failure, after)) :
    (ExceptT.run (step >>= next)).run s = (.error failure, after) := by
  rw [ExceptT.run_bind, StateT.run_bind, h]
  rfl

end SignIn
