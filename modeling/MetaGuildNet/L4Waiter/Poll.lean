import MetaGuildNet.L1Python.Value

/-!
# The Polling Waiter

The spec's waiter (§4.4) is a machine in state Polling that queries a status,
and on each outcome either stays in Polling (sleep one interval, poll again) or
moves to a terminal state: Ready, Failed, or an error that ends the wait. When
the budget of polls is used up it is TimedOut. Terminal states are final.

Both waiters of the repository have this shape and differ only in how one
outcome steers the machine (`Verdict`) and in the budget: `mgn workspace wait`
(`L4Waiter.WaitWorkspace`) and the runner's `_wait_for_workspace_ready`
(`L4Waiter.RunnerWait`) are proved to be `pollLoop` at their own verdict.
`σ j` is the outcome of the `j`-th poll, for every sequence of outcomes.

Results:
* `pollLoop_first`: the wait ends at the first poll whose verdict is terminal,
  with that verdict, after exactly that many polls: no poll follows it.
* `pollLoop_timeout`: when no poll within the budget is terminal, the wait
  times out after the whole budget of polls and as many sleeps.
* `pollLoop_ending_iff`: the wait ends with a terminal verdict `t` exactly
  when some poll within the budget has verdict `t` and every earlier one
  was non-terminal.
-/
namespace MetaGuildNet.L4

open MetaGuildNet.L1

inductive Verdict where
  | ready
  | failed
  | fatal (e : PyExc)
  | again
  deriving DecidableEq, Repr

inductive Ending where
  | ready
  | failed
  | timedOut
  | fatal (e : PyExc)
  deriving DecidableEq, Repr

def Verdict.ending : Verdict → Ending
  | ready => .ready
  | failed => .failed
  | fatal e => .fatal e
  | again => .timedOut

/-- A finished wait: its terminal state, the polls made and the intervals slept. -/
structure Wait where
  ending : Ending
  polls : Nat
  sleeps : Nat
  deriving DecidableEq, Repr

def Wait.later (r : Wait) : Wait := { r with polls := r.polls + 1, sleeps := r.sleeps + 1 }

/-- At most `budget` polls of the outcomes `σ 0, σ 1, ...`. -/
def pollLoop {α : Type} (verdict : α → Verdict) : Nat → (Nat → α) → Wait
  | 0, _ => ⟨.timedOut, 0, 0⟩
  | k + 1, σ =>
    match verdict (σ 0) with
    | .again => (pollLoop verdict k fun j => σ (j + 1)).later
    | v => ⟨v.ending, 1, 0⟩

section
variable {α : Type} (verdict : α → Verdict)

theorem pollLoop_again {k : Nat} {σ : Nat → α} (h : verdict (σ 0) = .again) :
    pollLoop verdict (k + 1) σ = (pollLoop verdict k fun j => σ (j + 1)).later := by
  simp [pollLoop, h]

theorem pollLoop_stop {k : Nat} {σ : Nat → α} (h : verdict (σ 0) ≠ .again) :
    pollLoop verdict (k + 1) σ = ⟨(verdict (σ 0)).ending, 1, 0⟩ := by
  unfold pollLoop; split <;> simp_all

theorem pollLoop_first : ∀ (j n : Nat) (σ : Nat → α), j < n →
    (∀ i < j, verdict (σ i) = .again) → verdict (σ j) ≠ .again →
    pollLoop verdict n σ = ⟨(verdict (σ j)).ending, j + 1, j⟩
  | _, 0, _, hj, _, _ => absurd hj (Nat.not_lt_zero _)
  | 0, k + 1, σ, _, _, hj => pollLoop_stop verdict hj
  | j + 1, k + 1, σ, hj, hpre, hterm => by
    rw [pollLoop_again verdict (hpre 0 (Nat.succ_pos j)),
      pollLoop_first j k _ (by omega) (fun i hi => hpre (i + 1) (by omega)) hterm]
    rfl

theorem pollLoop_timeout : ∀ (n : Nat) (σ : Nat → α), (∀ i < n, verdict (σ i) = .again) →
    pollLoop verdict n σ = ⟨.timedOut, n, n⟩
  | 0, _, _ => rfl
  | k + 1, σ, h => by
    rw [pollLoop_again verdict (h 0 (Nat.succ_pos k)),
      pollLoop_timeout k _ (fun i hi => h (i + 1) (by omega))]
    rfl

theorem first_terminal_or_all_again (σ : Nat → α) : ∀ n : Nat,
    (∀ i < n, verdict (σ i) = .again) ∨
      ∃ j < n, (∀ i < j, verdict (σ i) = .again) ∧ verdict (σ j) ≠ .again
  | 0 => .inl fun _ h => absurd h (Nat.not_lt_zero _)
  | n + 1 => by
    rcases first_terminal_or_all_again σ n with h | ⟨j, hj, hpre, ht⟩
    · by_cases hn : verdict (σ n) = .again
      · exact .inl fun i hi => (Nat.lt_succ_iff_lt_or_eq.mp hi).elim (h i) (· ▸ hn)
      · exact .inr ⟨n, Nat.lt_succ_self n, h, hn⟩
    · exact .inr ⟨j, by omega, hpre, ht⟩

theorem Verdict.ending_inj {t u : Verdict} (ht : t ≠ .again) (hu : u ≠ .again)
    (h : t.ending = u.ending) : t = u := by
  cases t <;> cases u <;> simp_all [Verdict.ending]

theorem Verdict.ending_ne_timedOut {t : Verdict} (ht : t ≠ .again) : t.ending ≠ .timedOut := by
  cases t <;> simp_all [Verdict.ending]

/-- The wait ends with the terminal verdict `t` exactly when some poll within
the budget has verdict `t` and all earlier polls were non-terminal. -/
theorem pollLoop_ending_iff (n : Nat) (σ : Nat → α) (t : Verdict) (ht : t ≠ .again) :
    (pollLoop verdict n σ).ending = t.ending ↔
      ∃ j < n, (∀ i < j, verdict (σ i) = .again) ∧ verdict (σ j) = t := by
  constructor
  · intro h
    rcases first_terminal_or_all_again verdict σ n with hall | ⟨j, hj, hpre, hterm⟩
    · rw [pollLoop_timeout verdict n σ hall] at h
      exact absurd h.symm (Verdict.ending_ne_timedOut ht)
    · rw [pollLoop_first verdict j n σ hj hpre hterm] at h
      exact ⟨j, hj, hpre, Verdict.ending_inj hterm ht h⟩
  · rintro ⟨j, hj, hpre, rfl⟩
    rw [pollLoop_first verdict j n σ hj hpre ht]

end

end MetaGuildNet.L4
