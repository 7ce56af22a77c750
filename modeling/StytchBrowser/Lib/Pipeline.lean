import Mathlib.Data.List.Basic

/-!
# Calls that share a queue

Calls take the same stages in turn, each as a job of one queue: the job at the head is run, and the
job of the next stage is queued at the end. `pipeline` lists the calls under way, those in the last
stage first; it has them in the order in which they were made.

* `pipeline_concat`: a call that starts is the last of the pipeline;
* `pipeline_advance`: a job that is run leaves the call where it was, in its next stage;
* `pipeline_finish`: the call that ends is the first.
-/

universe u

namespace Pipeline

variable {J : Type u} (stage : J → ℕ)

/-- The jobs of the stages below `n`, those of later stages first. -/
def pipeline : ℕ → List J → List J
  | 0, _ => []
  | n + 1, queue => queue.filter (stage · = n) ++ pipeline n queue

variable {stage}

/-- Jobs of stages from `n` on do not count. -/
theorem pipeline_append_of_le {n : ℕ} {jobs : List J} (h : ∀ j ∈ jobs, n ≤ stage j)
    (queue queue' : List J) :
    pipeline stage n (queue ++ jobs ++ queue') = pipeline stage n (queue ++ queue') := by
  induction n with
  | zero => rfl
  | succ n ih =>
    have hnone : jobs.filter (stage · = n) = [] :=
      List.filter_eq_nil_iff.2 fun j hj => by
        have := h j hj
        simp only [decide_eq_true_eq]
        omega
    rw [pipeline, pipeline, ih fun j hj => Nat.le_of_succ_le (h j hj), List.filter_append,
      List.filter_append, hnone, List.append_nil, List.filter_append]

theorem pipeline_cons_of_le {n : ℕ} {j : J} (h : n ≤ stage j) (queue : List J) :
    pipeline stage n (j :: queue) = pipeline stage n queue :=
  @pipeline_append_of_le J stage n [j] (by simpa using h) [] queue

theorem pipeline_concat_of_le {n : ℕ} {j : J} (h : n ≤ stage j) (queue : List J) :
    pipeline stage n (queue ++ [j]) = pipeline stage n queue := by
  have happ := @pipeline_append_of_le J stage n [j] (by simpa using h) queue []
  rwa [List.append_nil, List.append_nil] at happ

/-- Jobs of the first stage are the last of the pipeline. -/
theorem pipeline_append_first {n : ℕ} {jobs : List J} (h : ∀ j ∈ jobs, stage j = 0)
    (queue : List J) :
    pipeline stage (n + 1) (queue ++ jobs) = pipeline stage (n + 1) queue ++ jobs := by
  induction n with
  | zero =>
    have hall : jobs.filter (stage · = 0) = jobs :=
      List.filter_eq_self.2 fun j hj => decide_eq_true (h j hj)
    rw [pipeline, pipeline, pipeline, pipeline, List.filter_append, hall, List.append_nil,
      List.append_nil]
  | succ n ih =>
    have hnone : jobs.filter (stage · = n + 1) = [] :=
      List.filter_eq_nil_iff.2 fun j hj => by simp [h j hj]
    rw [pipeline, ih, List.filter_append, hnone, List.append_nil, ← List.append_assoc]
    rfl

/-- A job that is run is replaced by the job of the next stage where it stands. -/
theorem pipeline_advance {n : ℕ} {j j' : J} (hnext : stage j' = stage j + 1)
    (hlast : stage j + 1 < n) (queue : List J) :
    ∃ before after, pipeline stage n (j :: queue) = before ++ j :: after ∧
      pipeline stage n (queue ++ [j']) = before ++ j' :: after := by
  induction n with
  | zero => omega
  | succ n ih =>
    by_cases hn : stage j + 1 = n
    · subst hn
      refine ⟨queue.filter (stage · = stage j + 1), queue.filter (stage · = stage j) ++
        pipeline stage (stage j) queue, ?_, ?_⟩
      · rw [pipeline, pipeline, pipeline_cons_of_le (Nat.le_refl _), List.filter_cons_of_neg (by simp),
          List.filter_cons_of_pos (by simp)]
        rfl
      · rw [pipeline, pipeline, pipeline_concat_of_le (by omega), List.filter_append,
          List.filter_append, List.filter_cons_of_pos (by simp [hnext]),
          List.filter_cons_of_neg (by simp [hnext]), List.filter_nil, List.filter_nil,
          List.append_nil, List.append_assoc]
        rfl
    · obtain ⟨before, after, hleft, hright⟩ := ih (by omega)
      refine ⟨queue.filter (stage · = n) ++ before, after, ?_, ?_⟩
      · have hj : ¬ stage j = n := by omega
        rw [pipeline, hleft, List.filter_cons_of_neg (by simpa using hj), List.append_assoc]
      · have hj' : ¬ stage j' = n := by omega
        rw [pipeline, hright, List.filter_append, List.filter_cons_of_neg (by simpa using hj'),
          List.filter_nil, List.append_nil, List.append_assoc]

/-- The call that ends is the first of the pipeline. -/
theorem pipeline_finish {n : ℕ} {j : J} (hlast : stage j = n) (queue : List J) :
    pipeline stage (n + 1) (j :: queue) = j :: pipeline stage (n + 1) queue := by
  rw [pipeline, pipeline, List.filter_cons_of_pos (by simpa using hlast),
    pipeline_cons_of_le (Nat.le_of_eq hlast.symm)]
  rfl

end Pipeline
