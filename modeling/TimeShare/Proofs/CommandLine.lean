import TimeShare.CommandLine
import TimeShare.Proofs.Config.Environment
import TimeShare.Proofs.Session.Loading

/-!
# The command line on a host that keeps a record

`World` is a computer as the program sees it, with all that was written on it. The
program only looks things up and writes, so it leaves what its session's output
says (`run_session`), and the variables that a session looks at are all that
matters of the environment.
-/

namespace TimeShare

/-- A computer as the program sees it, and what has been written on it so far. -/
structure World where
  setting : String → Option String
  contents : String → Program.FileContents
  freshId : RunId
  printed : List String
  complaints : List String

namespace World

/-- A computer on which more has been printed and complained of. -/
def tell (world : World) (printed complaints : List String) : World :=
  { world with
    printed := world.printed ++ printed
    complaints := world.complaints ++ complaints }

/-- The files at some paths. -/
def files (world : World) (paths : List String) : List Session.File :=
  paths.map fun path => (path, world.contents path)

@[simp] theorem tell_nil (world : World) : world.tell [] [] = world := by
  simp only [tell, List.append_nil]

@[simp] theorem tell_tell (world : World) (printed complaints more moreComplaints : List String) :
    (world.tell printed complaints).tell more moreComplaints =
      world.tell (printed ++ more) (complaints ++ moreComplaints) := by
  simp only [tell, List.append_assoc]

instance : Host (StateM World) where
  setting name := do return (← get).setting name
  contents path := do return (← get).contents path
  freshId := do return (← get).freshId
  print line := modify fun world => world.tell [line] []
  complain text := modify fun world => world.tell [] [text]

variable {α β : Type} {world : World}

/-- What is looked up piece by piece is looked up at one computer. -/
theorem run_mapM {look : α → StateM World β} {found : α → β}
    (looks : ∀ a, (look a).run world = pure (found a, world)) (as : List α) :
    (as.mapM look).run world = pure (as.map found, world) := by
  induction as with
  | nil => rfl
  | cons a as ih =>
    rw [List.mapM_cons, StateT.run_bind, looks a, pure_bind, StateT.run_bind, ih]
    rfl

/-- What is written piece by piece stands one after the other. -/
theorem run_forM {write : α → StateM World Unit} {printed complaints : α → List String}
    (writes : ∀ a world, (write a).run world = pure ((), world.tell (printed a) (complaints a)))
    (as : List α) (world : World) :
    (as.forM write).run world =
      pure ((), world.tell (as.flatMap printed) (as.flatMap complaints)) := by
  induction as generalizing world with
  | nil =>
    rw [List.flatMap_nil, List.flatMap_nil, tell_nil]
    rfl
  | cons a as ih =>
    have split : (a :: as).forM write = write a >>= fun _ => as.forM write := rfl
    rw [split, StateT.run_bind, writes a, pure_bind, ih, tell_tell]
    rfl

theorem run_print (lines : List String) (world : World) :
    (lines.forM Host.print : StateM World Unit).run world = pure ((), world.tell lines []) := by
  have writes : ∀ line (world : World),
      (Host.print line : StateM World Unit).run world = pure ((), world.tell [line] []) :=
    fun _ _ => rfl
  rw [run_forM writes, List.flatMap_singleton', List.flatMap_eq_nil_iff.2 fun _ _ => rfl]

theorem run_complain (texts : List String) (world : World) :
    (texts.forM Host.complain : StateM World Unit).run world = pure ((), world.tell [] texts) := by
  have writes : ∀ text (world : World),
      (Host.complain text : StateM World Unit).run world = pure ((), world.tell [] [text]) :=
    fun _ _ => rfl
  rw [run_forM writes, List.flatMap_singleton', List.flatMap_eq_nil_iff.2 fun _ _ => rfl]

end World

namespace CommandLine

/-! ## Variables -/

/-- A variable that was looked up has the value that was found. -/
theorem lookupIn_map (setting : String → Option String) {names : List String} {name : String}
    (mem : name ∈ names) :
    lookupIn (names.map fun other => (other, setting other)) name = setting name := by
  induction names with
  | nil => cases mem
  | cons other names ih =>
    rw [lookupIn, List.map_cons, List.lookup_cons]
    by_cases same : name = other
    · subst same
      rw [beq_self_eq_true]
      rfl
    · rw [beq_false_of_ne same]
      exact ih (List.mem_of_ne_of_mem same mem)

end CommandLine

namespace Session

variable {lookup lookup' : String → Option String}

/-- A session depends on the variables only that it looks at. -/
theorem output_congr (same : ∀ name ∈ variableNames, lookup name = lookup' name) (plan : Plan)
    (files : List File) (id : RunId) :
    output plan lookup files id = output plan lookup' files id := by
  rw [variableNames] at same
  simp only [List.forall_mem_cons] at same
  obtain ⟨capacity, millis, sweeps, level, records, _⟩ := same
  have made : Config.ofEnvironment lookup = Config.ofEnvironment lookup' := by
    rw [Config.ofEnvironment, Config.ofEnvironment, Config.readVariable_congr capacity,
      Config.readVariable_congr millis, Config.readVariable_congr sweeps]
  have filter : levelFilter lookup = levelFilter lookup' := by
    rw [levelFilter, levelFilter, level]
  have form : logsRecords lookup = logsRecords lookup' := by
    rw [logsRecords, logsRecords, records]
  have log_eq : log lookup = log lookup' := by
    funext entries
    rw [log, log, filter, form]
  rw [output, output, run, run, made, form, log_eq]

end Session

/-! ## The program -/

namespace CommandLine

/-- What the program's session leaves on a computer. -/
def outputOn (plan : Plan) (arguments : List String) (world : World) : Output :=
  Session.output plan world.setting (world.files arguments) world.freshId

/-- The program leaves what its session's output says, and nothing else. -/
theorem run_session (plan : Plan) (arguments : List String) (world : World) :
    (session plan arguments : StateM World UInt32).run world =
      pure ((outputOn plan arguments world).exitCode,
        world.tell (outputOn plan arguments world).printed
          (outputOn plan arguments world).complaints) := by
  have setting : ∀ name, (do return (name, ← Host.setting name) : StateM World _).run world =
      pure ((name, world.setting name), world) := fun _ => rfl
  have file : ∀ path, (do return (path, ← Host.contents path) : StateM World _).run world =
      pure ((path, world.contents path), world) := fun _ => rfl
  have id : (Host.freshId : StateM World RunId).run world = pure (world.freshId, world) := rfl
  have output := Session.output_congr (fun _ mem => lookupIn_map world.setting mem) plan
    (world.files arguments) world.freshId
  rw [session, StateT.run_bind, World.run_mapM setting, pure_bind, StateT.run_bind,
    World.run_mapM file, pure_bind, StateT.run_bind, id, pure_bind]
  dsimp only
  rw [← World.files, output, ← outputOn, StateT.run_bind, World.run_print, pure_bind,
    StateT.run_bind, World.run_complain, pure_bind, World.tell_tell, List.append_nil,
    List.nil_append]
  rfl

end CommandLine

end TimeShare
