/-
What an action gives, whatever is in the log.

* `bind_run` — a sequence of actions, run from a state with its log;
* `Action.Gives` — from a state the action gives a result and leaves a state,
  and both are the same for every log;
* `Gives.bind`, `Gives.stop`, `Gives.zoom` — the rules for sequences and for
  actions on a part of the state;
* **`Gives.runFrom`** — that is what running the action comes to.

Design notes: no action of the services reads the log, so statements about
answers and states leave it out.  A proof walks through an action by these rules
and never looks at the monad underneath.
-/
import Meetings.Log
import Meetings.Proofs.Except

namespace Meetings

namespace Action

variable {σ τ α β : Type} {a : Action σ α} {next : α → Action σ β} {s t u : σ}
  {x : Except Fault α} {y : Except Fault β} {v : α} {e : Fault}

theorem bind_run (a : Action σ α) (next : α → Action σ β) (r : Run σ) :
    (a >>= next) r = match a r with
      | (.ok v, r') => next v r'
      | (.error e, r') => (.error e, r') := by
  simp only [bind, ExceptT.bind, ExceptT.mk, StateT.bind]
  rcases a r with ⟨_ | _, _⟩
  · rfl
  · rfl

/-- From the state `s` the action gives `x` and leaves the state `t`, whatever
was logged before. -/
def Gives (a : Action σ α) (s : σ) (x : Except Fault α) (t : σ) : Prop :=
  ∀ log, ∃ log', a ⟨s, log⟩ = (x, ⟨t, log'⟩)

theorem gives_pure (v : α) (s : σ) : (pure v : Action σ α).Gives s (.ok v) s :=
  fun log => ⟨log, rfl⟩

theorem gives_throw (e : Fault) (s : σ) : (throw e : Action σ α).Gives s (.error e) s :=
  fun log => ⟨log, rfl⟩

theorem gives_lift (x : Except Fault α) (s : σ) : (lift x).Gives s x s :=
  fun log => ⟨log, rfl⟩

theorem gives_state (s : σ) : (state : Action σ σ).Gives s (.ok s) s :=
  fun log => ⟨log, rfl⟩

theorem gives_setState (s t : σ) : (setState t).Gives s (.ok ()) t :=
  fun log => ⟨log, rfl⟩

theorem gives_update (f : σ → σ) (s : σ) : (update f).Gives s (.ok ()) (f s) :=
  fun log => ⟨log, rfl⟩

theorem gives_writeAll (lines : List LogLine) (s : σ) :
    (writeAll lines : Action σ Unit).Gives s (.ok ()) s :=
  fun log => ⟨log ++ lines, rfl⟩

theorem gives_debug (text : String) (s : σ) : (debug text : Action σ Unit).Gives s (.ok ()) s :=
  gives_writeAll _ s

theorem gives_info (text : String) (s : σ) : (info text : Action σ Unit).Gives s (.ok ()) s :=
  gives_writeAll _ s

theorem gives_warn (text : String) (s : σ) : (warn text : Action σ Unit).Gives s (.ok ()) s :=
  gives_writeAll _ s

/-- A step that succeeds is followed by the next one. -/
theorem Gives.bind (ha : a.Gives s (.ok v) t) (hnext : (next v).Gives t y u) :
    (a >>= next).Gives s y u := by
  intro log
  obtain ⟨log₁, h₁⟩ := ha log
  obtain ⟨log₂, h₂⟩ := hnext log₁
  exact ⟨log₂, by rw [bind_run, h₁]; exact h₂⟩

/-- A step that fails ends the sequence. -/
theorem Gives.stop (ha : a.Gives s (.error e) t) : (a >>= next).Gives s (.error e) t := by
  intro log
  obtain ⟨log₁, h₁⟩ := ha log
  exact ⟨log₁, by rw [bind_run, h₁]⟩

theorem Gives.zoom {part : τ → σ} {put : σ → τ → τ} {o : τ} (ha : a.Gives (part o) x t) :
    (a.zoom part put).Gives o x (put t o) := by
  intro log
  obtain ⟨log', h⟩ := ha log
  refine ⟨log', ?_⟩
  rw [Action.zoom, show a.run ⟨part o, log⟩ = _ from h]

theorem Gives.runFrom (h : a.Gives s x t) : (a.runFrom s).1 = x ∧ (a.runFrom s).2.state = t := by
  obtain ⟨log, h⟩ := h []
  rw [show a.runFrom s = _ from h]
  exact ⟨rfl, rfl⟩

theorem Gives.self (h : a.Gives s x t) : a.Gives s (a.runFrom s).1 (a.runFrom s).2.state := by
  rw [h.runFrom.1, h.runFrom.2]
  exact h

/-- Listeners are told one after another; nobody can refuse. -/
theorem gives_forM_update {γ : Type} (items : List γ) (f : γ → σ → σ) (s : σ) :
    (items.forM fun item => update (f item)).Gives s (.ok ())
      (items.foldl (fun s item => f item s) s) := by
  induction items generalizing s with
  | nil => exact gives_pure () s
  | cons item rest ih => exact (gives_update (f item) s).bind (ih (f item s))

end Action

end Meetings
