import Lanes.Callback

/-!
# Runs of labelled moves

A component changes by moves, each of which leaves some events. A run is any number of moves, one
after the other, with all their events, the oldest first. While a callback runs, the component
passes through what the callback's questions make of it.
-/
namespace Lanes

/-- Any number of moves. -/
inductive Runs {state event : Type} (move : state → List event → state → Prop) :
    state → List event → state → Prop
  | refl (s : state) : Runs move s [] s
  | tail {s s' s'' : state} {events more : List event} (before : Runs move s events s')
      (last : move s' more s'') : Runs move s (events ++ more) s''

namespace Runs
variable {state event : Type} {move : state → List event → state → Prop}
variable {s s' s'' : state} {events more : List event}

theorem single (h : move s events s') : Runs move s events s' := by
  simpa using Runs.tail (.refl s) h

theorem trans (h : Runs move s events s') (k : Runs move s' more s'') :
    Runs move s (events ++ more) s'' := by
  induction k with
  | refl => simpa using h
  | tail _ last ih =>
    rw [← List.append_assoc]
    exact .tail ih last

theorem head (h : move s events s') (k : Runs move s' more s'') :
    Runs move s (events ++ more) s'' :=
  (single h).trans k

/-- What every move keeps, every run keeps. -/
theorem keeps {P : state → Prop} (step : ∀ {s events s'}, move s events s' → P s → P s')
    (h : Runs move s events s') (start : P s) : P s' := by
  induction h with
  | refl => exact start
  | tail _ last ih => exact step last ih

end Runs

namespace Call
variable {ask answer result world : Type}

/-- The worlds between the questions of a call, from the first to the last. -/
def passes (perform : ask → world → answer × world) :
    Call ask answer result → world → List world
  | done _, w => [w]
  | .ask question resume, w =>
    w :: (resume (perform question w).1).passes perform (perform question w).2

theorem run_mem_passes (perform : ask → world → answer × world) (call : Call ask answer result)
    (w : world) : (call.run perform w).2 ∈ call.passes perform w := by
  induction call generalizing w with
  | done => exact List.mem_singleton_self _
  | ask question resume ih => exact List.mem_cons_of_mem _ (ih _ _)

/-- The questions of a call, each with the world in which it is asked. -/
def questions (perform : ask → world → answer × world) :
    Call ask answer result → world → List (ask × world)
  | done _, _ => []
  | .ask question resume, w =>
    (question, w) :: (resume (perform question w).1).questions perform (perform question w).2

/-- After some questions, each listed with the world in which it was asked, a call has come to a
world. -/
inductive Comes (perform : ask → world → answer × world) :
    Call ask answer result → world → List (ask × world) → world → Prop
  | here (call : Call ask answer result) (w : world) : Comes perform call w [] w
  | ask {question : ask} {resume : answer → Call ask answer result} {w w' : world}
      {asked : List (ask × world)}
      (rest : Comes perform (resume (perform question w).1) (perform question w).2 asked w') :
      Comes perform (.ask question resume) w ((question, w) :: asked) w'

theorem run_comes (perform : ask → world → answer × world) (call : Call ask answer result)
    (w : world) : Comes perform call w (call.questions perform w) (call.run perform w).2 := by
  induction call generalizing w with
  | done => exact .here _ w
  | ask question resume ih => exact .ask (ih _ _)

/-- If something holds at the end of a call and did not at its beginning, there is a question by
which it came to hold, and a call that goes on from there. -/
theorem run_turns {perform : ask → world → answer × world} {P : world → Prop}
    {call : Call ask answer result} {w : world} (before : ¬ P w)
    (after : P (call.run perform w).2) :
    ∃ question w', w' ∈ call.passes perform w ∧ ¬ P w' ∧ P (perform question w').2 ∧
      ∃ rest : Call ask answer result,
        rest.run perform (perform question w').2 = call.run perform w := by
  induction call generalizing w with
  | done => exact absurd after before
  | ask question resume ih =>
    by_cases now : P (perform question w).2
    · exact ⟨question, w, List.mem_cons_self, before, now, resume (perform question w).1, rfl⟩
    · obtain ⟨later, w', mem, turn⟩ := ih _ now after
      exact ⟨later, w', List.mem_cons_of_mem _ mem, turn⟩

end Call

/-- A step of a list of steps is the first one, or it stands behind it. -/
theorem exists_split_cons {ι : Type} {P : List ι → List ι → Prop} {first step : ι}
    {steps : List ι} :
    (∃ earlier later, first :: steps = earlier ++ step :: later ∧ P earlier later) ↔
      first = step ∧ P [] steps ∨
      ∃ earlier later, steps = earlier ++ step :: later ∧ P (first :: earlier) later := by
  constructor
  · rintro ⟨earlier, later, split, holds⟩
    cases earlier with
    | nil =>
      obtain ⟨rfl, rfl⟩ := List.cons.inj split
      exact .inl ⟨rfl, holds⟩
    | cons other earlier =>
      obtain ⟨rfl, rfl⟩ := List.cons.inj split
      exact .inr ⟨earlier, later, rfl, holds⟩
  · rintro (⟨rfl, holds⟩ | ⟨earlier, later, rfl, holds⟩)
    · exact ⟨[], steps, rfl, holds⟩
    · exact ⟨first :: earlier, later, rfl, holds⟩

/-- What holds of every item of a list and those behind it holds of the first one, and behind it. -/
theorem forall_split_cons {ι : Type} {P : ι → List ι → Prop} {first : ι} {items : List ι} :
    (∀ before item behind, first :: items = before ++ item :: behind → P item behind) ↔
      P first items ∧
      ∀ before item behind, items = before ++ item :: behind → P item behind := by
  constructor
  · intro holds
    refine ⟨holds [] first items rfl, ?_⟩
    rintro before item behind rfl
    exact holds (first :: before) item behind rfl
  · rintro ⟨here, holds⟩ before item behind split
    cases before with
    | nil =>
      obtain ⟨rfl, rfl⟩ := List.cons.inj split
      exact here
    | cons other before =>
      obtain ⟨rfl, rfl⟩ := List.cons.inj split
      exact holds before item behind rfl

end Lanes
