import VersionedApi.Proofs.Model.SimpleChains
import Mathlib.Data.List.Perm.Subperm

/-!
# The walk with shared stacks

The walk can be made by calls that share two stacks, of the locators that lead to
where it is and of the resources that it is at, and push and pop them as they go.
Main statement: whatever the version and whatever the stacks hold, every call
returns, it leaves the stacks as it found them, and from the root the calls list
the paths of the version, none of which has more locators than there are
resources.
-/

namespace VersionedApi.Model

/-! ## Calls -/

/--
What the calls of a walk share: the locators that were taken and the resources
that the walk is at, both last first, and the paths listed so far.
-/
structure Stacks where
  chain : Path
  visiting : List ResourceId
  listed : List Path
  deriving Repr, DecidableEq

namespace Stacks

/-- A locator is taken: it is pushed, and so is where it leads, and the chain is listed. -/
def push (held : Stacks) (locator : Locator) : Stacks where
  chain := locator :: held.chain
  visiting := locator.target :: held.visiting
  listed := held.listed ++ [(locator :: held.chain).reverse]

def pop (held : Stacks) : Stacks :=
  { held with chain := held.chain.tail, visiting := held.visiting.tail }

def list (held : Stacks) (paths : List Path) : Stacks :=
  { held with listed := held.listed ++ paths }

theorem list_nil (held : Stacks) : held.list [] = held := by
  simp [list]

theorem list_list (held : Stacks) (paths more : List Path) :
    (held.list paths).list more = held.list (paths ++ more) := by
  simp [list]

theorem pop_list_push (held : Stacks) (locator : Locator) (paths : List Path) :
    ((held.push locator).list paths).pop =
      held.list ((locator :: held.chain).reverse :: paths) := by
  simp [push, list, pop]

end Stacks

namespace Version

/-- A locator is taken, and left again after the call behind it, unless the walk is there. -/
def tryLocator (call : ResourceId → Stacks → Option Stacks) (held : Stacks)
    (locator : Locator) : Option Stacks :=
  if locator.target ∈ held.visiting then some held
  else (call locator.target (held.push locator)).map Stacks.pop

/--
One call of the walk tries the locators of a resource in turn.  `depth` says how
many calls may be open at a time, this one included; where more would be needed
there is no result.
-/
def collect (version : Version) : Nat → ResourceId → Stacks → Option Stacks
  | 0, _, _ => none
  | depth + 1, start, held =>
    match version.resource? start with
    | none => some held
    | some resource => resource.locators.foldlM (tryLocator (version.collect depth)) held

def collectPaths (version : Version) (depth : Nat) : Option (List Path) :=
  match version.root with
  | none => some []
  | some root => (version.collect depth root ⟨[], [root], []⟩).map (·.listed)

variable {version : Version}

/-! ## What a call lists -/

def behind (version : Version) (held : Stacks) (start : ResourceId) : List Path :=
  (version.resource? start).elim [] (version.walk held.visiting held.chain)

def through (version : Version) (held : Stacks) (locator : Locator) : List Path :=
  if locator.target ∈ held.visiting then []
  else (locator :: held.chain).reverse :: version.behind (held.push locator) locator.target

theorem behind_of_resource? {held : Stacks} {start : ResourceId} {resource : Resource}
    (found : version.resource? start = some resource) :
    version.behind held start = resource.locators.flatMap (version.through held) := by
  rw [behind, found, Option.elim_some, walk_eq]
  rfl

/-- A call that returns has done nothing but list what is behind the resource. -/
def Lists (version : Version) (call : ResourceId → Stacks → Option Stacks) : Prop :=
  ∀ ⦃start held final⦄, call start held = some final →
    final = held.list (version.behind held start)

theorem Lists.tryLocator {call : ResourceId → Stacks → Option Stacks}
    (lists : version.Lists call) {held final : Stacks} {locator : Locator}
    (tried : tryLocator call held locator = some final) :
    final = held.list (version.through held locator) := by
  unfold Version.tryLocator at tried
  unfold through
  split at tried
  · next known =>
      obtain rfl := Option.some.inj tried
      rw [if_pos known, Stacks.list_nil]
  · next fresh =>
      obtain ⟨returned, called, rfl⟩ := Option.map_eq_some_iff.1 tried
      rw [if_neg fresh, lists called, Stacks.pop_list_push]

theorem Lists.foldlM {call : ResourceId → Stacks → Option Stacks} (lists : version.Lists call)
    {locators : List Locator} {held final : Stacks}
    (tried : locators.foldlM (Version.tryLocator call) held = some final) :
    final = held.list (locators.flatMap (version.through held)) := by
  induction locators generalizing held with
  | nil =>
      obtain rfl := Option.some.inj tried
      exact (Stacks.list_nil held).symm
  | cons locator rest ih =>
      rw [List.foldlM_cons] at tried
      obtain ⟨next, first, later⟩ := Option.bind_eq_some_iff.1 tried
      obtain rfl := lists.tryLocator first
      rw [ih later, Stacks.list_list]
      rfl

theorem lists_collect (version : Version) (depth : Nat) :
    version.Lists (version.collect depth) := by
  induction depth with
  | zero =>
      intro start held final returned
      cases returned
  | succ depth ih =>
      intro start held final returned
      rw [collect] at returned
      cases found : version.resource? start with
      | none =>
          rw [found] at returned
          obtain rfl := Option.some.inj returned
          rw [behind, found, Option.elim_none, Stacks.list_nil]
      | some resource =>
          rw [found] at returned
          rw [behind_of_resource? found]
          exact ih.foldlM returned

/-! ## Every call returns -/

/--
So many open calls are enough for a call from a resource: behind a resource that
is there each further one is unvisited until then, and the last may dangle.
-/
def Suffices (version : Version) (depth : Nat) (visiting : List ResourceId)
    (start : ResourceId) : Prop :=
  0 < depth ∧ ∀ resource, version.resource? start = some resource →
    (version.unvisited visiting).length + 2 ≤ depth

/-- What is enough for a call leaves enough for the calls that it makes. -/
theorem Suffices.push {depth : Nat} {visiting : List ResourceId} {start next : ResourceId}
    {resource : Resource} (enough : version.Suffices (depth + 1) visiting start)
    (found : version.resource? start = some resource) (fresh : next ∉ visiting) :
    version.Suffices depth (next :: visiting) next := by
  have bound := enough.2 resource found
  refine ⟨by omega, fun other there => ?_⟩
  have fewer := length_unvisited_cons_lt there fresh
  omega

theorem exists_tryLocator {call : ResourceId → Stacks → Option Stacks} {held : Stacks}
    (returns : ∀ next ∉ held.visiting, ∀ pushed : Stacks,
      pushed.visiting = next :: held.visiting → ∃ final, call next pushed = some final)
    (locator : Locator) : ∃ final, tryLocator call held locator = some final := by
  unfold tryLocator
  split
  · exact ⟨held, rfl⟩
  · next fresh =>
      obtain ⟨final, called⟩ := returns locator.target fresh (held.push locator) rfl
      exact ⟨final.pop, by rw [called, Option.map_some]⟩

theorem exists_foldlM_tryLocator {call : ResourceId → Stacks → Option Stacks}
    (lists : version.Lists call) {held : Stacks}
    (returns : ∀ next ∉ held.visiting, ∀ pushed : Stacks,
      pushed.visiting = next :: held.visiting → ∃ final, call next pushed = some final)
    (locators : List Locator) :
    ∃ final, locators.foldlM (tryLocator call) held = some final := by
  induction locators generalizing held with
  | nil => exact ⟨held, rfl⟩
  | cons locator rest ih =>
      obtain ⟨next, tried⟩ := exists_tryLocator returns locator
      obtain rfl := lists.tryLocator tried
      -- What the call has listed is no part of what the next one needs.
      have later : ∃ final, rest.foldlM (tryLocator call)
          (held.list (version.through held locator)) = some final := ih returns
      rwa [List.foldlM_cons, tried]

theorem exists_collect {depth : Nat} {start : ResourceId} {held : Stacks}
    (enough : version.Suffices depth held.visiting start) :
    ∃ final, version.collect depth start held = some final := by
  induction depth generalizing start held with
  | zero => exact absurd enough.1 (Nat.lt_irrefl 0)
  | succ depth ih =>
      rw [collect]
      cases found : version.resource? start with
      | none => exact ⟨held, rfl⟩
      | some resource =>
          apply exists_foldlM_tryLocator (version.lists_collect depth)
          intro next fresh pushed top
          apply ih
          rw [top]
          exact enough.push found fresh

theorem collect_of_suffices {depth : Nat} {start : ResourceId} {held : Stacks}
    (enough : version.Suffices depth held.visiting start) :
    version.collect depth start held = some (held.list (version.behind held start)) := by
  obtain ⟨final, returned⟩ := exists_collect enough
  rw [returned, version.lists_collect depth returned]

theorem length_unvisited_le (version : Version) (visiting : List ResourceId) :
    (version.unvisited visiting).length ≤ version.resources.length := by
  have shorter := List.length_filter_le (fun index => ResourceId.mk index ∉ visiting)
    (List.range version.resources.length)
  rwa [List.length_range] at shorter

/-- Two calls more than there are resources are enough anywhere. -/
theorem suffices_of_le {depth : Nat} (bound : version.resources.length + 2 ≤ depth)
    (visiting : List ResourceId) (start : ResourceId) :
    version.Suffices depth visiting start := by
  have fewer := version.length_unvisited_le visiting
  exact ⟨by omega, fun _ _ => by omega⟩

/-- From the root, which the walk is at, one call more than there are resources is enough. -/
theorem suffices_root (version : Version) (root : ResourceId) :
    version.Suffices (version.resources.length + 1) [root] root := by
  refine ⟨Nat.succ_pos _, fun resource found => ?_⟩
  have fewer := length_unvisited_cons_lt found List.not_mem_nil
  have bound := version.length_unvisited_le []
  omega

theorem collectPaths_eq (version : Version) :
    version.collectPaths (version.resources.length + 1) = some version.paths := by
  unfold collectPaths paths
  cases version.root with
  | none => rfl
  | some root =>
      dsimp only
      rw [collect_of_suffices (version.suffices_root root), Option.map_some, Stacks.list, behind]
      cases version.resource? root with
      | none => rfl
      | some resource => rfl

/-! ## How long paths are -/

/-- A chain goes on from resources that are there; only what it ends with may dangle. -/
theorem Follows.index_lt {start : ResourceId} {places : List Nat} {path : Path}
    (follows : version.Follows start places path) :
    ∀ id ∈ (start :: path.map (·.target)).dropLast, id.index < version.resources.length := by
  induction follows with
  | last found offered =>
      intro id member
      obtain rfl := List.mem_singleton.1 member
      exact (List.getElem?_eq_some_iff.1 found).1
  | step found offered rest ih =>
      rw [List.map_cons, List.dropLast_cons_cons]
      exact List.forall_mem_cons.2 ⟨(List.getElem?_eq_some_iff.1 found).1, ih⟩

/-- A path has at most as many locators as there are resources. -/
theorem length_le_of_mem_paths {path : Path} (listed : path ∈ version.paths) :
    path.length ≤ version.resources.length := by
  rw [paths_eq_map_placedPaths] at listed
  obtain ⟨⟨places, path⟩, placed, rfl⟩ := List.mem_map.1 listed
  cases chosen : version.root with
  | none =>
      rw [placedPaths, chosen] at placed
      cases placed
  | some root =>
      obtain ⟨follows, simple⟩ := (mem_placedPaths_iff chosen).1 placed
      have distinct : ((root :: path.map (·.target)).dropLast.map (·.index)).Nodup :=
        (simple.sublist (List.dropLast_sublist _)).map fun first second same =>
          congrArg ResourceId.mk same
      have among : (root :: path.map (·.target)).dropLast.map (·.index) ⊆
          List.range version.resources.length := by
        intro index member
        obtain ⟨id, inside, rfl⟩ := List.mem_map.1 member
        exact List.mem_range.2 (follows.index_lt id inside)
      have bound := (List.subperm_of_subset distinct among).length_le
      simpa using bound

/-! ## The walk ends -/

/--
The walk ends on every version.  Whatever resource a call starts from and
whatever the stacks hold, it returns, and it needs no more than two open calls
more than there are resources; a call that returns leaves both stacks as it found
them.  The calls from the root list the paths of the version, and no path has
more locators than there are resources.
-/
theorem collect_terminates (version : Version) :
    (∀ start held, ∃ final, ∀ depth, version.resources.length + 2 ≤ depth →
      version.collect depth start held = some final) ∧
    (∀ depth start held final, version.collect depth start held = some final →
      final.chain = held.chain ∧ final.visiting = held.visiting) ∧
    version.collectPaths (version.resources.length + 1) = some version.paths ∧
    ∀ path ∈ version.paths, path.length ≤ version.resources.length := by
  refine ⟨fun start held => ?_, fun depth start held final returned => ?_,
    version.collectPaths_eq, fun path listed => length_le_of_mem_paths listed⟩
  · exact ⟨_, fun depth bound =>
      collect_of_suffices (suffices_of_le bound held.visiting start)⟩
  · obtain rfl := version.lists_collect depth returned
    exact ⟨rfl, rfl⟩

/-- Stacks that hold a resource that is not there, and the root not at all. -/
def stray : Stacks where
  chain := [⟨⟨"lost"⟩, "", false, ⟨9⟩⟩]
  visiting := [⟨9⟩]
  listed := []

theorem collect_terminates_tangled :
    (∃ final, (∀ depth, 5 ≤ depth → tangled.collect depth ⟨1⟩ stray = some final) ∧
      final.chain = stray.chain ∧ final.visiting = stray.visiting) ∧
    tangled.collectPaths 4 = some tangled.paths ∧
    ∀ path ∈ tangled.paths, path.length ≤ 3 := by
  obtain ⟨returns, restores, lists, short⟩ := tangled.collect_terminates
  obtain ⟨final, returned⟩ := returns ⟨1⟩ stray
  refine ⟨⟨final, returned, ?_⟩, lists, short⟩
  exact restores 5 ⟨1⟩ stray final (returned 5 (Nat.le_refl 5))

/-- The number of open calls cannot be any lower: here the longest path leads to nothing. -/
example : tangled.collectPaths 3 = none := by
  decide +kernel

end Version

end VersionedApi.Model
