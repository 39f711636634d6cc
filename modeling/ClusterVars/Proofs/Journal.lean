import ClusterVars.Journal

/-! What an observer keeps of a computation: its warnings and its failure. -/
namespace ClusterVars.Logged
variable {α β : Type}

/-- The warnings and errors among the notices. -/
def alerts (x : Logged α) : List Notice := x.notices.filter Notice.isWarning

def failure? (x : Logged α) : Option Failure :=
  match x.result with
  | .ok _ => none
  | .error failure => some failure

theorem failure?_eq_some {x : Logged α} {failure : Failure} :
    x.failure? = some failure ↔ x.result = .error failure := by
  cases held : x.result <;> simp [failure?, held]

theorem failure?_eq_none {x : Logged α} : x.failure? = none ↔ ∃ a, x.result = .ok a := by
  cases held : x.result <;> simp [failure?, held]

theorem warnings_eq_nil {x : Logged α} (quiet : x.alerts = []) : x.warnings = [] := by
  simpa [warnings, alerts] using quiet

@[simp] theorem alerts_pure (a : α) : (pure a : Logged α).alerts = [] := rfl

theorem alerts_bind_of_ok {x : Logged α} {a : α} (succeeded : x.result = .ok a)
    (f : α → Logged β) : (x >>= f).alerts = x.alerts ++ (f a).alerts := by
  simp [bind_of_ok succeeded, alerts]

theorem alerts_bind_of_error {x : Logged α} {failure : Failure}
    (failed : x.result = .error failure) (f : α → Logged β) : (x >>= f).alerts = x.alerts := by
  simp [bind_of_error failed, alerts]

theorem result_bind_of_ok {x : Logged α} {a : α} (succeeded : x.result = .ok a)
    (f : α → Logged β) : (x >>= f).result = (f a).result := by
  simp [bind_of_ok succeeded]

theorem result_bind_of_error {x : Logged α} {failure : Failure}
    (failed : x.result = .error failure) (f : α → Logged β) :
    (x >>= f).result = .error failure := by
  simp [bind_of_error failed]

@[simp] theorem alerts_bind_pure (x : Logged α) (f : α → β) :
    (x >>= fun a => pure (f a)).alerts = x.alerts := by
  cases held : x.result with
  | error failure => exact alerts_bind_of_error held _
  | ok a => exact (alerts_bind_of_ok held _).trans (List.append_nil _)

theorem result_bind_pure (x : Logged α) (f : α → β) :
    (x >>= fun a => pure (f a)).result = x.result.map f := by
  cases held : x.result with
  | error failure => exact result_bind_of_error held _
  | ok a => exact result_bind_of_ok held _

theorem bind_eq_ok {x : Logged α} {f : α → Logged β} {b : β}
    (succeeded : (x >>= f).result = .ok b) : ∃ a, x.result = .ok a ∧ (f a).result = .ok b := by
  cases held : x.result with
  | error failure => simp [held, Except.bind] at succeeded
  | ok a => exact ⟨a, rfl, by simpa [held, Except.bind] using succeeded⟩

theorem bind_eq_error {x : Logged α} {f : α → Logged β} {failure : Failure}
    (failed : (x >>= f).result = .error failure) :
    x.result = .error failure ∨ ∃ a, x.result = .ok a ∧ (f a).result = .error failure := by
  cases held : x.result with
  | error other =>
    cases (result_bind_of_error held f).symm.trans failed
    exact .inl rfl
  | ok a => exact .inr ⟨a, rfl, (result_bind_of_ok held f).symm.trans failed⟩

/-- What goes on after a computation can be told from its result, and its warnings only add up. -/
theorem bind_same {x y : Logged α} (result : x.result = y.result) (alerts : x.alerts = y.alerts)
    (f : α → Logged β) :
    (x >>= f).result = (y >>= f).result ∧ (x >>= f).alerts = (y >>= f).alerts := by
  cases held : y.result with
  | error failure =>
    have failed := result.trans held
    rw [result_bind_of_error failed, result_bind_of_error held, alerts_bind_of_error failed,
      alerts_bind_of_error held]
    exact ⟨rfl, alerts⟩
  | ok a =>
    have succeeded := result.trans held
    rw [result_bind_of_ok succeeded, result_bind_of_ok held, alerts_bind_of_ok succeeded,
      alerts_bind_of_ok held, alerts]
    exact ⟨rfl, rfl⟩

end ClusterVars.Logged
