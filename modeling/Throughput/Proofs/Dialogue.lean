/-!
# Dialogues

A party that is told one thing after another, answers each of them and changes as it does. Its
answer at a place depends on what it was told up to there, and on nothing that comes later.
-/

namespace Throughput.Dialogue

variable {σ α β : Type} {step : σ → α → σ × β}

/-- The state after all that is told. -/
def after (step : σ → α → σ × β) (state : σ) (told : List α) : σ :=
  told.foldl (fun state next => (step state next).1) state

/-- One answer for each thing that is told. -/
def answers (step : σ → α → σ × β) (state : σ) : List α → List β
  | [] => []
  | next :: rest => (step state next).2 :: answers step (step state next).1 rest

@[simp]
theorem after_nil (state : σ) : after step state [] = state := rfl

@[simp]
theorem after_cons (state : σ) (next : α) (rest : List α) :
    after step state (next :: rest) = after step (step state next).1 rest := rfl

theorem after_append (state : σ) (told more : List α) :
    after step state (told ++ more) = after step (after step state told) more :=
  List.foldl_append

theorem after_concat (state : σ) (told : List α) (next : α) :
    after step state (told ++ [next]) = (step (after step state told) next).1 :=
  after_append state told [next]

/-- What one step preserves holds after any number of them. -/
theorem after_preserves (holds : σ → Prop)
    (hstep : ∀ state next, holds state → holds (step state next).1) {state : σ}
    (h : holds state) (told : List α) : holds (after step state told) := by
  induction told generalizing state with
  | nil => exact h
  | cons next rest ih => exact ih (hstep state next h)

@[simp]
theorem length_answers (state : σ) (told : List α) :
    (answers step state told).length = told.length := by
  induction told generalizing state with
  | nil => rfl
  | cons next rest ih => rw [answers, List.length_cons, ih, List.length_cons]

theorem getElem?_answers (state : σ) (told : List α) (place : Nat) :
    (answers step state told)[place]? =
      told[place]?.map fun next => (step (after step state (told.take place)) next).2 := by
  induction told generalizing state place with
  | nil => rfl
  | cons next rest ih =>
    cases place with
    | zero => rfl
    | succ place => exact ih (step state next).1 place

/-- An answer that is given only where a flag goes up is given at most once, if the flag stays up.
-/
theorem countP_answers_le {flag : σ → Bool} {isIt : β → Bool}
    (hkeeps : ∀ state next, flag state = true → flag (step state next).1 = true)
    (hraises : ∀ state next, isIt (step state next).2 = true →
      flag state = false ∧ flag (step state next).1 = true)
    (state : σ) (told : List α) :
    (answers step state told).countP isIt + (flag state).toNat ≤ 1 := by
  induction told generalizing state with
  | nil =>
    rw [answers, List.countP_nil, Nat.zero_add]
    exact Bool.toNat_le _
  | cons next rest ih =>
    have hrest := ih (step state next).1
    rw [answers, List.countP_cons]
    by_cases hit : isIt (step state next).2 = true
    · obtain ⟨hdown, hup⟩ := hraises state next hit
      rw [hup, Bool.toNat_true] at hrest
      rw [if_pos hit, hdown, Bool.toNat_false]
      omega
    · have hmono : (flag state).toNat ≤ (flag (step state next).1).toNat := by
        cases hflag : flag state with
        | false => exact Nat.zero_le _
        | true => exact Nat.le_of_eq (congrArg Bool.toNat (hkeeps state next hflag).symm)
      rw [if_neg hit]
      omega

end Throughput.Dialogue
