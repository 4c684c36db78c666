import Lanes.Proofs.Pool.Targets

/-!
# Random draws

Requests for no object go to a lane that is drawn at random. Nothing but these routings makes a
pool use its generator: not the routing of objects, nor growth and shutdown, nor a call that is
refused. So what is drawn depends on the generator that the pool was made with, and on how many
lanes there were at each draw.
-/
namespace Lanes

/-! ### Draws in a row -/

/-- How many lanes there were when one was drawn, and the id of the lane that was found. -/
abbrev LaneDraw := Nat × Option LaneId

/-- What a generator draws if the numbers of lanes are these, in order. -/
def Generator.lanes (g : Generator) : List Nat → List LaneDraw × Generator
  | [] => ([], g)
  | count :: rest =>
    let first := g.below count
    let others := first.2.lanes rest
    ((count, some ((first.1 + 1 : Nat) : Int)) :: others.1, others.2)

theorem Generator.lanes_append (g : Generator) (counts more : List Nat) :
    g.lanes (counts ++ more) =
      ((g.lanes counts).1 ++ ((g.lanes counts).2.lanes more).1,
        ((g.lanes counts).2.lanes more).2) := by
  induction counts generalizing g with
  | nil => rfl
  | cons count rest ih => simp [lanes, ih]

/-- The draws are those of a generator, which is used for nothing else in between. -/
def Drawn (g : Generator) (draws : List LaneDraw) (g' : Generator) : Prop :=
  g.lanes (draws.map Prod.fst) = (draws, g')

namespace Drawn
variable {g g' g'' : Generator} {draws more draws' : List LaneDraw}

theorem append (first : Drawn g draws g') (later : Drawn g' more g'') :
    Drawn g (draws ++ more) g'' := by
  unfold Drawn at first later ⊢
  rw [List.map_append, g.lanes_append, first, later]

/-- The ids found are in range. -/
theorem find (drawn : Drawn g draws g') (counts : ∀ draw ∈ draws, 0 < draw.1) :
    ∀ draw ∈ draws, ∃ id : Int, draw.2 = some id ∧ 0 < id ∧ id ≤ draw.1 := by
  induction draws generalizing g with
  | nil => simp
  | cons first rest ih =>
    obtain ⟨here, later⟩ := List.forall_mem_cons.mp counts
    obtain ⟨same, others⟩ := List.cons.inj (Prod.mk.inj drawn).1
    refine List.forall_mem_cons.mpr ⟨?_, ih (Prod.ext others (Prod.mk.inj drawn).2) later⟩
    have below := g.below_lt here
    exact ⟨((g.below first.1).1 + 1 : Nat), by rw [← same], by omega, by omega⟩

/-- One generator draws the same as long as the numbers of lanes are the same. -/
theorem prefix_of_counts (drawn : Drawn g draws g') (drawn' : Drawn g draws' g'')
    (counts : draws.map Prod.fst <+: draws'.map Prod.fst) : draws <+: draws' := by
  obtain ⟨rest, split⟩ := counts
  unfold Drawn at drawn drawn'
  rw [← split, g.lanes_append, drawn] at drawn'
  exact ⟨_, (Prod.mk.inj drawn').1⟩

theorem eq_of_counts (drawn : Drawn g draws g') (drawn' : Drawn g draws' g'')
    (counts : draws.map Prod.fst = draws'.map Prod.fst) : draws = draws' := by
  unfold Drawn at drawn drawn'
  rw [← counts, drawn] at drawn'
  exact (Prod.mk.inj drawn').1

end Drawn

/-! ### The draws of a pool -/

namespace Pool
variable {α β γ σ : Type} {p : Pool α β γ σ}

/-- The id of the lane that was found. -/
def idAt (p : Pool α β γ σ) (found : Except Error Nat) : Option LaneId :=
  found.toOption.bind fun place => (p.lanes[place]?).map (·.id)

/-- Those of some routings that are for no object, on a pool that has lanes. -/
def drawsOf (p : Pool α β γ σ) (routed : List (ObjectId × Except Error Nat)) : List LaneDraw :=
  if p.size = 0 then []
  else (routed.filter (fun entry => entry.1 ≤ 0)).map (fun entry => (p.size, p.idAt entry.2))

/-- The draws in a step. -/
def draws (p : Pool α β γ σ) : RunningPool.Step α γ σ → List LaneDraw
  | .target object affinity => p.drawsOf [(object, (p.target object affinity).1)]
  | .sendEach _ objects _ => p.drawsOf (p.targets objects).1
  | _ => []

theorem size_of_mem_draws {step : RunningPool.Step α γ σ} {draw : LaneDraw}
    (mem : draw ∈ p.draws step) : 0 < draw.1 := by
  have each {routed : List (ObjectId × Except Error Nat)} (mem : draw ∈ p.drawsOf routed) :
      0 < draw.1 := by
    unfold drawsOf at mem
    split at mem
    · simp at mem
    · next some =>
      obtain ⟨entry, -, rfl⟩ := List.mem_map.mp mem
      exact Nat.pos_of_ne_zero some
  cases step with
  | target object affinity => exact each mem
  | sendEach request objects wantsReply => exact each mem
  | _ => simp [draws] at mem

theorem drawsOf_cons (p : Pool α β γ σ) (entry : ObjectId × Except Error Nat)
    (routed : List (ObjectId × Except Error Nat)) :
    p.drawsOf (entry :: routed) = p.drawsOf [entry] ++ p.drawsOf routed := by
  unfold drawsOf
  split
  · rfl
  · rw [← List.map_append, ← List.filter_append, List.singleton_append]

theorem target_generator_of_pos {object : ObjectId} (pos : 0 < object) (affinity : Bool) :
    (p.target object affinity).2.generator = p.generator := by
  have positive : ¬ object ≤ 0 := Int.not_le.mpr pos
  unfold target
  split
  · rfl
  · unfold choose
    rw [if_neg positive]
    split
    · split <;> rfl
    · rfl

theorem owner_generator (p : Pool α β γ σ) (object : ObjectId) :
    (p.owner object).2.generator = p.generator := by
  unfold owner
  split
  · rfl
  · next pos => exact target_generator_of_pos (Int.not_le.mp pos) true

/-- A routing draws once if it is for no object and there are lanes, and else not at all. -/
theorem Sound.target_drawn (sound : p.Sound) (object : ObjectId) (affinity : Bool) :
    Drawn p.generator (p.drawsOf [(object, (p.target object affinity).1)])
      (p.target object affinity).2.generator := by
  by_cases empty : p.size = 0
  · have none : p.laneCount = 0 := sound.size_eq ▸ empty
    simp [drawsOf, empty, target, none, Drawn, Generator.lanes]
  · by_cases pos : 0 < object
    · have others : p.drawsOf [(object, (p.target object affinity).1)] = [] := by
        simp [drawsOf, pos]
      rw [others, target_generator_of_pos pos]
      rfl
    · have nobody : object ≤ 0 := Int.not_lt.mp pos
      have stocked : p.laneCount ≠ 0 := sound.size_eq ▸ empty
      have chosen : p.choose object affinity =
          ((((p.generator.below p.laneCount).1 + 1 : Nat) : Int),
            { p with generator := (p.generator.below p.laneCount).2 }) := by
        rw [choose, if_pos nobody]
      have range := sound.choose_mem stocked object affinity
      obtain ⟨place, listed⟩ := (sound.live _).mpr range
      obtain ⟨lane, there, number⟩ := sound.lane listed
      rw [chosen] at listed number
      dsimp only at listed number
      have found : p.target object affinity =
          (.ok place, { p with generator := (p.generator.below p.laneCount).2 }) := by
        have some : ¬ (p.laneCount = 0 ∨ p.roster.isEmpty = true) := by
          simp [stocked, sound.stocked stocked]
        simp only [target, if_neg some, chosen, place?, listed]
      have drew : p.drawsOf [(object, .ok place)] =
          [(p.laneCount, some (((p.generator.below p.laneCount).1 + 1 : Nat) : Int))] := by
        simp [drawsOf, nobody, sound.size_eq, stocked, idAt, Except.toOption, there, number]
      rw [found, drew]
      rfl

theorem Sound.targets_drawn (sound : p.Sound) (objects : List ObjectId) :
    Drawn p.generator (p.drawsOf (p.targets objects).1) (p.targets objects).2.generator := by
  induction objects generalizing p with
  | nil =>
    have none : p.drawsOf [] = [] := by simp [drawsOf]
    rw [targets, none]
    rfl
  | cons object rest ih =>
    have first := sound.target_drawn object true
    have later := ih ((p.target_reroutes object true).sound sound)
    -- what the pool finds at a place is the same before and after the first routing
    have same : (p.target object true).2.drawsOf = p.drawsOf := by
      obtain ⟨routes, generator, same⟩ := p.target_same object true
      rw [same]
      rfl
    rw [same] at later
    rw [targets, drawsOf_cons]
    exact first.append later

theorem Sound.sendEach_drawn (sound : p.Sound) (request : α) (objects : List ObjectId)
    (wantsReply : Bool) : Drawn p.generator (p.drawsOf (p.targets objects).1)
      (p.sendEach request objects wantsReply).2.generator := by
  have routed := sound.targets_drawn objects
  unfold sendEach
  split
  · next none =>
    obtain rfl := List.isEmpty_iff.mp none
    exact routed
  · split
    · next empty =>
      have none : p.drawsOf (p.targets objects).1 = [] := by simp [drawsOf, empty]
      rw [none]
      rfl
    · have sent := (submitAll_admits request wantsReply (p.targets objects).1
        (p.targets objects).2).routes.generator
      exact sent ▸ routed

theorem setObject_generator (p : Pool α β γ σ) (object : ObjectId) (value : γ) :
    (p.setObject object value).2.generator = p.generator := by
  have owned := p.owner_generator object
  unfold setObject
  dsimp only
  split
  · exact owned
  · split <;> exact owned

theorem removeObject_generator (p : Pool α β γ σ) (object : ObjectId) :
    (p.removeObject object).2.generator = p.generator := by
  have owned := p.owner_generator object
  unfold removeObject
  dsimp only
  split
  · exact owned
  · split <;> exact owned

end Pool

/-! ### The draws of a run -/

namespace RunningPool
variable {α β γ σ : Type} {h : Handler α β γ σ}

theorem apply_drawn {s : RunningPool α β γ σ} (sound : s.pool.Sound) (step : Step α γ σ) :
    Drawn s.pool.generator (s.pool.draws step) (s.apply h step).pool.generator := by
  have unused (same : (s.apply h step).pool.generator = s.pool.generator) :
      Drawn s.pool.generator [] (s.apply h step).pool.generator := by
    rw [same]
    rfl
  cases step with
  | target object affinity => exact sound.target_drawn object affinity
  | sendEach request objects wantsReply => exact sound.sendEach_drawn request objects wantsReply
  | grow count tick =>
    obtain ⟨lanes, roster, laneCount, journal, same⟩ := s.pool.grow_same count tick
    have kept : (s.pool.grow count tick).2.generator = s.pool.generator := by rw [same]
    exact unused kept
  | getObject object => exact unused (s.pool.owner_generator object)
  | setObject object value => exact unused (s.pool.setObject_generator object value)
  | removeObject object => exact unused (s.pool.removeObject_generator object)
  | quit => exact unused s.pool.beginQuit_routes.generator
  | _ => exact unused (s.apply_routes rfl).generator

theorem run_drawn {s : RunningPool α β γ σ} (sound : s.pool.Sound) (steps : List (Step α γ σ)) :
    Drawn s.pool.generator (along h Pool.draws steps s) (run h steps s).pool.generator := by
  induction steps generalizing s with
  | nil => rfl
  | cons step steps ih =>
    rw [along_cons, run_cons]
    exact (apply_drawn sound step).append (ih (s.apply_sound step sound))

theorem size_of_mem_along {s : RunningPool α β γ σ} {steps : List (Step α γ σ)} {draw : LaneDraw}
    (mem : draw ∈ along h Pool.draws steps s) : 0 < draw.1 := by
  obtain ⟨visit, -, here⟩ := List.mem_flatMap.mp mem
  exact Pool.size_of_mem_draws here

/-- In two runs of pools that were made with the same generator, whatever else they are and do,
the same lanes are drawn as long as there are as many lanes at each draw. -/
theorem draws_follow_lane_counts {α' β' γ' σ' : Type} (h : Handler α β γ σ)
    (h' : Handler α' β' γ' σ') (config config' : PoolConfig) (generator : Generator) (memory : σ)
    (memory' : σ') (steps : List (Step α γ σ)) (steps' : List (Step α' γ' σ')) :
    let draws := along h Pool.draws steps (start config generator memory)
    let draws' := along h' Pool.draws steps' (start config' generator memory')
    (draws.map Prod.fst = draws'.map Prod.fst → draws.map Prod.snd = draws'.map Prod.snd) ∧
    (draws.map Prod.fst <+: draws'.map Prod.fst → draws.map Prod.snd <+: draws'.map Prod.snd) ∧
    ∀ draw ∈ draws, ∃ id : Int, draw.2 = some id ∧ 0 < id ∧ id ≤ draw.1 := by
  intro draws draws'
  have drawn := run_drawn (h := h) (s := start config generator memory) (.new ..) steps
  have drawn' := run_drawn (h := h') (s := start config' generator memory') (.new ..) steps'
  refine ⟨fun counts => ?_, fun counts => ?_, fun draw mem => ?_⟩
  · exact congrArg _ (drawn.eq_of_counts drawn' counts)
  · exact (drawn.prefix_of_counts drawn' counts).map _
  · exact drawn.find (fun _ => size_of_mem_along) draw mem

/-- Passes on every request but zero to the first lane, and counts those. -/
def relay : Handler Nat Nat Nat Nat where
  process _ _ request table memory :=
    match request with
    | 0 => .done (.returned 0, table, memory)
    | n + 1 => .ask ⟨1, n⟩ fun _ => .done (.returned n, table, memory + 1)

/-- Three draws and nothing else, before and after the pool was built anew. -/
def sparseRun : List (Step Nat Nat Nat) :=
  [.grow 3 none, .target 0 false, .target (-5) true, .quit, .grow 2 none, .target 0 true]

/-- Draws on an empty pool, which are refused, and among much other traffic. -/
def bustlingRun : List (Step Nat Nat Nat) :=
  [.target 0 false, .grow 1 (some ⟨0⟩), .grow 2 none, .grow 0 none, .setObject 5 50,
    .sendEach 3 [5, 0, 7] false, .tick 0 0, .consume 0 0, .consume 0 1, .consume 0 1,
    .target 7 true, .cast 2, .consume 0 0, .removeObject 5, .target (-1) true, .quit, .resume 0,
    .sendEach 1 [0] true, .grow 2 none, .getObject 7, .sendEach 1 [9, -3] true]

theorem bustlingRun_draws_as_sparseRun :
    let draws := along relay Pool.draws sparseRun (start .standard (.seeded 7) 0)
    let draws' := along relay Pool.draws bustlingRun (start ⟨2, ⟨5⟩⟩ (.seeded 7) 1)
    draws.map Prod.fst = [3, 3, 2] ∧ draws'.map Prod.fst = [3, 3, 2] ∧
    draws.map Prod.snd = draws'.map Prod.snd ∧
    draws.map Prod.snd = [some 2, some 1, some 1] := by
  intro draws draws'
  have counts : draws.map Prod.fst = [3, 3, 2] := by decide +kernel
  have counts' : draws'.map Prod.fst = [3, 3, 2] := by decide +kernel
  obtain ⟨same, -, -⟩ := draws_follow_lane_counts relay relay .standard ⟨2, ⟨5⟩⟩ (.seeded 7) 0 1
    sparseRun bustlingRun
  exact ⟨counts, counts', same (counts.trans counts'.symm), by decide +kernel⟩

end RunningPool
end Lanes
