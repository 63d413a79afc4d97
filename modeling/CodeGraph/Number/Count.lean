/-!
# Counts

The total of a list of counts, and counting steps that are taken for the items of a list.

## Main definitions

* `Count.total`: the total of a list of counts.
* `Count.steps`: a step for each item, with the number of steps that did something.

## Main results

* `Count.steps_cons`: the first step, and the others.
* `Count.fst_steps`, `Count.measure_steps`: where the steps lead, and what their number means.
-/

namespace CodeGraph.Count

/-- All counts together. -/
def total (counts : List Nat) : Nat :=
  counts.foldr (· + ·) 0

@[simp]
theorem total_nil : total [] = 0 :=
  rfl

@[simp]
theorem total_cons (n : Nat) (counts : List Nat) : total (n :: counts) = n + total counts :=
  rfl

theorem total_append (counts more : List Nat) :
    total (counts ++ more) = total counts + total more := by
  induction counts with
  | nil => simp
  | cons n counts ih =>
    rw [List.cons_append, total_cons, total_cons, ih]
    omega

/-! ### Counting steps -/

variable {σ α : Type}

/-- Take a step for each item, and count those that say that they did something. -/
def steps (f : σ → α → σ × Bool) (s : σ) (xs : List α) : σ × Nat :=
  xs.foldl (fun (s, count) x =>
    let (s, done) := f s x
    (s, if done then count + 1 else count)) (s, 0)

@[simp]
theorem steps_nil (f : σ → α → σ × Bool) (s : σ) : steps f s [] = (s, 0) :=
  rfl

/-- Counting may start anywhere. -/
theorem foldl_count (f : σ → α → σ × Bool) (s : σ) (count : Nat) (xs : List α) :
    xs.foldl (fun (p : σ × Nat) x => ((f p.1 x).1, if (f p.1 x).2 then p.2 + 1 else p.2))
        (s, count) =
      ((steps f s xs).1, count + (steps f s xs).2) := by
  induction xs generalizing s count with
  | nil => rfl
  | cons x xs ih =>
    have hfirst : steps f s (x :: xs) = ((steps f (f s x).1 xs).1,
        (if (f s x).2 then 0 + 1 else 0) + (steps f (f s x).1 xs).2) := ih (f s x).1 _
    rw [List.foldl_cons, ih, hfirst]
    split <;> simp only [Prod.mk.injEq, true_and] <;> omega

/-- The first step, and the others. -/
theorem steps_cons (f : σ → α → σ × Bool) (s : σ) (x : α) (xs : List α) :
    steps f s (x :: xs) = ((steps f (f s x).1 xs).1,
      (if (f s x).2 then 1 else 0) + (steps f (f s x).1 xs).2) := by
  rw [← foldl_count]
  simp [steps]

/-- Where the steps lead, counted or not. -/
theorem fst_steps (f : σ → α → σ × Bool) (s : σ) (xs : List α) :
    (steps f s xs).1 = xs.foldl (fun s x => (f s x).1) s := by
  induction xs generalizing s with
  | nil => rfl
  | cons x xs ih => rw [steps_cons, ih, List.foldl_cons]

/-- If each step adds one to a measure exactly when it is counted, the count is what was added. -/
theorem measure_steps {f : σ → α → σ × Bool} (measure : σ → Nat)
    (h : ∀ s x, measure (f s x).1 = measure s + if (f s x).2 then 1 else 0) (s : σ) (xs : List α) :
    measure (steps f s xs).1 = measure s + (steps f s xs).2 := by
  induction xs generalizing s with
  | nil => rfl
  | cons x xs ih =>
    rw [steps_cons, ih, h]
    omega

end CodeGraph.Count
