/-!
# Executions

The operations of a bank and of a pool are written over any monad of effects.  An execution says
what those effects do to a world: every action gives an answer and leaves a world.  Nothing else is
known of the world, so whatever is proved for every execution holds for every server, every network
and every order in which they fail.
-/

namespace BankLedger

/-- What the actions of a monad do to a world. -/
structure Execution (m : Type → Type) [Monad m] (World : Type) where
  run : {α : Type} → m α → World → α × World
  run_pure : ∀ {α : Type} (answer : α) (world : World),
    run (pure answer) world = (answer, world)
  run_bind : ∀ {α β : Type} (action : m α) (next : α → m β) (world : World),
    run (action >>= next) world = run (next (run action world).1) (run action world).2

namespace Execution

variable {m : Type → Type} [Monad m] {World State : Type}

attribute [simp] run_pure run_bind

/-- The execution of actions that are functions of the world already. -/
def direct : Execution (StateM World) World where
  run action world := action.run world
  run_pure _ _ := rfl
  run_bind _ _ _ := rfl

/-- The execution of actions that have a state beside the effects of a monad. -/
def withState (execution : Execution m World) (State : Type) :
    Execution (StateT State m) (State × World) where
  run action pair :=
    let outcome := execution.run (action.run pair.1) pair.2
    (outcome.1.1, outcome.1.2, outcome.2)
  run_pure answer pair := by
    simp only [StateT.run_pure, execution.run_pure]
  run_bind action next pair := by
    simp only [StateT.run_bind, execution.run_bind]

variable (execution : Execution m World)

/-- An action that is given its state and run is the action run with its state beside the world. -/
theorem run_run {α : Type} (action : StateT State m α) (state : State) (world : World) :
    execution.run (action.run state) world =
      let outcome := (execution.withState State).run action (state, world)
      ((outcome.1, outcome.2.1), outcome.2.2) := rfl

@[simp] theorem run_get (state : State) (world : World) :
    (execution.withState State).run get (state, world) = (state, state, world) :=
  congrArg (fun outcome => (outcome.1.1, outcome.1.2, outcome.2))
    (execution.run_pure (state, state) world)

@[simp] theorem run_set (next state : State) (world : World) :
    (execution.withState State).run (set next) (state, world) = ((), next, world) :=
  congrArg (fun outcome => (outcome.1.1, outcome.1.2, outcome.2))
    (execution.run_pure ((), next) world)

@[simp] theorem run_modifyGet {α : Type} (change : State → α × State) (state : State)
    (world : World) :
    (execution.withState State).run (modifyGet change) (state, world) =
      ((change state).1, (change state).2, world) :=
  congrArg (fun outcome => (outcome.1.1, outcome.1.2, outcome.2))
    (execution.run_pure (change state) world)

@[simp] theorem run_modify (change : State → State) (state : State) (world : World) :
    (execution.withState State).run (modify change) (state, world) =
      ((), change state, world) :=
  execution.run_modifyGet (fun state => ((), change state)) state world

@[simp] theorem run_liftM {α : Type} (action : m α) (state : State) (world : World) :
    (execution.withState State).run (liftM action) (state, world) =
      ((execution.run action world).1, state, (execution.run action world).2) := by
  change (let outcome := execution.run (action >>= fun answer => pure (answer, state)) world
    (outcome.1.1, outcome.1.2, outcome.2)) = _
  simp only [execution.run_bind, execution.run_pure]

@[simp] theorem run_map {α β : Type} (image : α → β) (action : StateT State m α)
    (pair : State × World) :
    (execution.withState State).run (image <$> action) pair =
      (image ((execution.withState State).run action pair).1,
        ((execution.withState State).run action pair).2) := by
  change (let outcome := execution.run (action.run pair.1 >>= fun outcome =>
      (pure (image outcome.1, outcome.2) : m (β × State))) pair.2
    (outcome.1.1, outcome.1.2, outcome.2)) = _
  simp only [execution.run_bind, execution.run_pure]
  rfl

/-! ## Actions for all members of a list -/

section

variable {α β : Type} (action : α → m β)

theorem run_mapM_nil (world : World) : execution.run ([].mapM action) world = ([], world) :=
  execution.run_pure [] world

-- `mapM` carries the answers so far, in reverse.
theorem run_mapM_loop (members : List α) (answers : List β) (world : World) :
    execution.run (List.mapM.loop action members answers) world =
      (answers.reverse ++ (execution.run (members.mapM action) world).1,
        (execution.run (members.mapM action) world).2) := by
  induction members generalizing answers world with
  | nil =>
      rw [run_mapM_nil, List.mapM.loop, execution.run_pure, List.append_nil]
  | cons member others inductionHypothesis =>
      rw [List.mapM, List.mapM.loop, List.mapM.loop, execution.run_bind, execution.run_bind,
        inductionHypothesis, inductionHypothesis [_]]
      simp only [List.reverse_cons, List.reverse_nil, List.nil_append, List.append_assoc]

theorem run_mapM_cons (member : α) (others : List α) (world : World) :
    execution.run ((member :: others).mapM action) world =
      let first := execution.run (action member) world
      let rest := execution.run (others.mapM action) first.2
      (first.1 :: rest.1, rest.2) := by
  rw [List.mapM, List.mapM.loop, execution.run_bind, run_mapM_loop]
  rfl

end

/-! ## Views of a world -/

variable {View α β : Type}

/-- An action leaves what is seen of the world as it is. -/
def Leaves (view : World → View) (action : m α) : Prop :=
  ∀ world, view (execution.run action world).2 = view world

/-- An action beside a state leaves what is seen of the world alone. -/
abbrev LeavesBeside (view : World → View) (action : StateT State m α) : Prop :=
  (execution.withState State).Leaves (fun pair => view pair.2) action

variable {execution} {view : World → View}

theorem leaves_pure (answer : α) : execution.Leaves view (pure answer) := by
  intro world
  rw [execution.run_pure]

theorem Leaves.bind {action : m α} {next : α → m β} (first : execution.Leaves view action)
    (others : ∀ answer, execution.Leaves view (next answer)) :
    execution.Leaves view (action >>= next) := by
  intro world
  rw [execution.run_bind, others, first]

/-- What is seen of a view is left with it. -/
theorem Leaves.image {Image : Type} {action : m α} (leaves : execution.Leaves view action)
    (image : View → Image) : execution.Leaves (fun world => image (view world)) action :=
  fun world => congrArg image (leaves world)

theorem leaves_get : execution.LeavesBeside view (get : StateT State m State) := by
  intro (state, world)
  rw [execution.run_get]

theorem leaves_modifyGet (change : State → α × State) :
    execution.LeavesBeside view (modifyGet change : StateT State m α) := by
  intro (state, world)
  rw [execution.run_modifyGet]

theorem leaves_modify (change : State → State) :
    execution.LeavesBeside view (modify change : StateT State m PUnit) :=
  leaves_modifyGet _

theorem Leaves.liftM {action : m α} (leaves : execution.Leaves view action) :
    execution.LeavesBeside view (liftM action : StateT State m α) := by
  intro (state, world)
  rw [execution.run_liftM]
  exact leaves world

end Execution

end BankLedger
