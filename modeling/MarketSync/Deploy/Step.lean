/-!
# Deployment steps

A step has a tag and names the tags that have to be there before it runs: those of other steps, or
names provided from outside. `order` is `order_steps` and arranges steps so that each follows what
it depends on. Among the steps that are ready a regular one goes before one that runs at the end,
and otherwise the earlier one goes first.

A step waits for a number of dependencies, counted as often as they are named. Each scheduled step
lowers the number of every waiting step that names its tag by one. So a dependency that is named
twice is never met by a single step, and two steps of one tag can lower a number below zero, which
is an outcome of its own.
-/

namespace MarketSync.Deploy

structure Step where
  tag : String
  dependencies : List String
  runAtTheEnd : Bool
  deriving DecidableEq, Repr

/-- Creation and configuration of markets. -/
def marketsStep : Step where
  tag := "Markets"
  dependencies := ["MarketFactory", "Tokens", "DataStore"]
  runAtTheEnd := true

inductive StepError where
  | missingDependency (step dependency : String)
  | cycle (waiting : List String)
  | counterBelowZero (step : String)
  deriving DecidableEq, Repr

def StepError.message : StepError → String
  | .missingDependency step dependency =>
    "step " ++ step ++ " depends on " ++ dependency ++ ", which is not provided"
  | .cycle waiting =>
    "dependency cycle between deployment steps: " ++ ", ".intercalate waiting
  | .counterBelowZero step =>
    "step " ++ step ++ " waits for fewer dependencies than were scheduled"

namespace Step

/-- Fails with the first dependency that is not provided (`check_dependencies`). -/
def checkDependencies (s : Step) (provided : List String) : Except StepError Unit :=
  match s.dependencies.find? fun d => !provided.contains d with
  | some d => .error (.missingDependency s.tag d)
  | none => .ok ()

end Step

/-- Looks for names among the tags in the list and what is provided; the first one that is in
neither counts. -/
def checkNames (tags provided : List String) (step : String) : List String → Except StepError Unit
  | [] => .ok ()
  | d :: ds =>
    if !tags.contains d && !provided.contains d then .error (.missingDependency step d)
    else checkNames tags provided step ds

/-- Looks for the dependencies of each step; the first failing step counts. -/
def checkAll (tags provided : List String) : List Step → Except StepError Unit
  | [] => .ok ()
  | s :: ss =>
    match checkNames tags provided s.tag s.dependencies with
    | .error e => .error e
    | .ok () => checkAll tags provided ss

/-! ## Scheduling -/

/-- A step that is not scheduled yet, and the number of dependencies it waits for. -/
structure Waiting where
  step : Step
  unmet : Nat
  deriving DecidableEq, Repr

/-- How many dependencies of a step are tags in the list. -/
def countUnmet (tags : List String) (s : Step) : Nat :=
  s.dependencies.countP fun d => tags.contains d

/-- The first element with a property, and the list without it. -/
def extract {α : Type} (p : α → Bool) : List α → Option (α × List α)
  | [] => none
  | a :: as => if p a then some (a, as) else (extract p as).map fun (b, bs) => (b, a :: bs)

/-- The step to schedule next: the first ready regular step, else the first ready step that runs at
the end. -/
def next (ws : List Waiting) : Option (Waiting × List Waiting) :=
  match extract (fun w => w.unmet == 0 && !w.step.runAtTheEnd) ws with
  | some found => some found
  | none => extract (fun w => w.unmet == 0) ws

/-- Lowers the number of every step that depends on a tag. -/
def release (tag : String) : List Waiting → Except StepError (List Waiting)
  | [] => .ok []
  | w :: ws =>
    if w.step.dependencies.contains tag then
      match w.unmet with
      | 0 => .error (.counterBelowZero w.step.tag)
      | n + 1 => (release tag ws).map (⟨w.step, n⟩ :: ·)
    else (release tag ws).map (w :: ·)

theorem extract_length {α : Type} {p : α → Bool} {as bs : List α} {a : α}
    (h : extract p as = some (a, bs)) : bs.length + 1 = as.length := by
  induction as generalizing bs with
  | nil => simp [extract] at h
  | cons c cs ih =>
    unfold extract at h
    split at h
    · cases h; rfl
    · match he : extract p cs with
      | none => simp [he] at h
      | some (b, ds) =>
        simp only [he, Option.map_some, Option.some.injEq, Prod.mk.injEq] at h
        obtain ⟨rfl, rfl⟩ := h
        simp [← ih he]

theorem next_length {ws rest : List Waiting} {w : Waiting} (h : next ws = some (w, rest)) :
    rest.length + 1 = ws.length := by
  unfold next at h
  split at h
  · rename_i found hf
    cases h
    exact extract_length hf
  · exact extract_length h

theorem release_length {tag : String} {ws released : List Waiting}
    (h : release tag ws = .ok released) : released.length = ws.length := by
  induction ws generalizing released with
  | nil => simp only [release, Except.ok.injEq] at h; simp [← h]
  | cons w ws ih =>
    unfold release at h
    match hr : release tag ws with
    | .error e =>
      simp only [hr] at h
      split at h
      · split at h <;> simp [Except.map] at h
      · simp [Except.map] at h
    | .ok rs =>
      simp only [hr] at h
      split at h
      · split at h
        · simp at h
        · simp only [Except.map, Except.ok.injEq] at h; simp [← h, ih hr]
      · simp only [Except.map, Except.ok.injEq] at h; simp [← h, ih hr]

/-- Schedules the waiting steps one after another. -/
def schedule (ws : List Waiting) : Except StepError (List Step) :=
  match _hn : next ws with
  | none => if ws.isEmpty then .ok [] else .error (.cycle (ws.map (·.step.tag)))
  | some (w, rest) =>
    match _hr : release w.step.tag rest with
    | .error e => .error e
    | .ok released => (schedule released).map (w.step :: ·)
termination_by ws.length
decreasing_by
  have := next_length _hn
  have := release_length _hr
  omega

/-- Orders steps so that each follows its dependencies (`order_steps`). A dependency that is neither
a tag in the list nor provided is reported before any cycle. -/
def order (steps : List Step) (provided : List String) : Except StepError (List Step) :=
  let tags := steps.map (·.tag)
  match checkAll tags provided steps with
  | .error e => .error e
  | .ok () => schedule (steps.map fun s => ⟨s, countUnmet tags s⟩)

end MarketSync.Deploy
