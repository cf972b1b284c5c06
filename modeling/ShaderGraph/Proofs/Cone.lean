import Mathlib.Data.Set.Function
import ShaderGraph.Proofs.CompileOutcome
import ShaderGraph.Proofs.Lockstep

namespace ShaderGraph

open Relation

namespace Graph

def cone (graph : Graph) (root : NodeId) : Set NodeId := {id | graph.Upstream id root}

/-- Two nodes have the same graph upstream: nodes correspond one to one, with the same kind and parameters, and the
    outputs that feed an input and its counterpart correspond. -/
structure SameCone (graph other : Graph) (root otherRoot : NodeId) (move : NodeId → NodeId) : Prop where
  bijection : Set.BijOn move (graph.cone root) (other.cone otherRoot)
  moved : move root = otherRoot
  twins : ∀ node ∈ graph.nodes, node.id ∈ graph.cone root → ∀ twin ∈ other.nodes, twin.id = move node.id →
    node.Twin twin
  sources : ∀ id ∈ graph.cone root, ∀ input,
    (other.inputLink? (move id) input).map (fun link => (link.source, link.output)) =
      (graph.inputLink? id input).map (fun link => (move link.source, link.output))

structure Counterpart (graph other : Graph) (root : NodeId) (move : NodeId → NodeId) (node twin : Node) : Prop where
  inside : node ∈ graph.nodes
  above : node.id ∈ graph.cone root
  twinInside : twin ∈ other.nodes
  id : twin.id = move node.id

theorem Counterpart.twins {graph other : Graph} {root otherRoot : NodeId} {move : NodeId → NodeId} {node twin : Node}
    (counterpart : graph.Counterpart other root move node twin) (same : graph.SameCone other root otherRoot move) :
    node.Twin twin :=
  same.twins node counterpart.inside counterpart.above twin counterpart.twinInside counterpart.id

abbrev Alongside {σ τ : Type} (graph other : Graph) (root : NodeId) (move : NodeId → NodeId) : Run σ → Run τ → Prop :=
  Followed (Parallel move (· ∈ graph.cone root)) graph other

end Graph

theorem Error.Alike.atRoot {left right : Error} (alike : left.Alike right) (name twinName : String)
    (target twinTarget : Option String) : (left.atRoot name target).Alike (right.atRoot twinName twinTarget) := by
  cases alike with
  | failure family => exact .failure family
  | refl =>
    cases left with
    | nesting => exact .failure rfl
    | _ => exact .refl _

namespace Scene

variable {σ τ : Type} {scene : Scene σ} {other : Scene τ} {root otherRoot : NodeId} {move : NodeId → NodeId}

section Step

variable (sound : scene.graph.Sound) (otherSound : other.graph.Sound) (catalog : other.catalog = scene.catalog)
  (same : scene.graph.SameCone other.graph root otherRoot move) {breaks : Error → Prop}
  {recur : Node → Option String → Resolving σ Expression} {twinRecur : Node → Option String → Resolving τ Expression}
  (resolves : ∀ node twin, scene.graph.Counterpart other.graph root move node twin → ∀ asked run twinRun,
    scene.graph.Alongside other.graph root move run twinRun →
    Lockstep breaks (scene.graph.Alongside other.graph root move) ((recur node asked).outcome run)
      ((twinRecur twin asked).outcome twinRun))

include sound otherSound same resolves

theorem input_lockstep {node twin : Node} (counterpart : scene.graph.Counterpart other.graph root move node twin)
    (socket : InputSocket) {run : Run σ} {twinRun : Run τ}
    (alongside : scene.graph.Alongside other.graph root move run twinRun) :
    Lockstep breaks (scene.graph.Alongside other.graph root move) ((scene.input recur node socket).outcome run)
      ((other.input twinRecur twin socket).outcome twinRun) := by
  have sources := same.sources node.id counterpart.above socket.name
  rw [← counterpart.id] at sources
  cases joined : scene.graph.inputLink? node.id socket.name with
  | none =>
    rw [joined, Option.map_none, Option.map_eq_none_iff] at sources
    simp only [input, joined, sources]
    split
    · exact .error (.failure rfl)
    · exact .ok _ alongside
  | some link =>
    rw [joined, Option.map_some, Option.map_eq_some_iff] at sources
    obtain ⟨twinLink, twinJoined, ends⟩ := sources
    obtain ⟨moved, output⟩ := Prod.mk.inj ends
    obtain ⟨source, sourceInside, found, sourceId, _⟩ := sound.source joined
    obtain ⟨twinSource, twinSourceInside, twinFound, twinSourceId, _⟩ := otherSound.source twinJoined
    have above : source.id ∈ scene.graph.cone root :=
      ReflTransGen.head (sourceId ▸ Graph.feeds_of_inputLink? joined) counterpart.above
    have id : twinSource.id = move source.id := by rw [twinSourceId, moved, sourceId]
    simp only [input, joined, twinJoined, found, twinFound, output]
    exact resolves source twinSource ⟨sourceInside, above, twinSourceInside, id⟩ _ run twinRun alongside

variable (accepts : scene.host.Accepts) (otherAccepts : other.host.Accepts)
  (digits : other.host.limits.digits = scene.host.limits.digits)

include catalog accepts otherAccepts digits

theorem work_lockstep {node twin : Node} (counterpart : scene.graph.Counterpart other.graph root move node twin)
    (socket : Option String) {run : Run σ} {twinRun : Run τ}
    (alongside : scene.graph.Alongside other.graph root move run twinRun) :
    Lockstep breaks (scene.graph.Alongside other.graph root move) ((scene.work recur node socket).outcome run)
      ((other.work twinRecur twin socket).outcome twinRun) := by
  have twins := counterpart.twins same
  have respectful := (Parallel.respectful move (· ∈ scene.graph.cone root) :
    Respectful (Parallel move _ : Run σ → Run τ → Prop)).followed scene.graph other.graph
  rw [work, work]
  refine Paired.bind ?_ fun inputs middle twinMiddle alongside => ?_
  · rw [inputs, inputs, catalog, twins.kind]
    refine Paired.mapM _ (fun socket _ run twinRun alongside => ?_) alongside
    refine (input_lockstep sound otherSound same resolves counterpart socket alongside).bind ?_
    exact fun e middle twinMiddle alongside => .ok (socket.name, e) alongside
  · refine (note_lockstep respectful _ _ _ alongside).bind fun _ last twinLast alongside => ?_
    exact Host.apply_lockstep respectful accepts otherAccepts digits twins inputs socket alongside

theorem step_lockstep {node twin : Node} (counterpart : scene.graph.Counterpart other.graph root move node twin)
    (asked : Option String) {run : Run σ} {twinRun : Run τ}
    (alongside : scene.graph.Alongside other.graph root move run twinRun) :
    Lockstep breaks (Parallel move (· ∈ scene.graph.cone root)) ((scene.step recur node asked).outcome run)
      ((other.step twinRecur twin asked).outcome twinRun) := by
  have twins := counterpart.twins same
  have parallel := alongside.related
  have injective {id otherId : NodeId} (above : id ∈ scene.graph.cone root) (otherAbove : otherId ∈ scene.graph.cone root)
      (moved : move id = move otherId) : id = otherId := same.bijection.injOn above otherAbove moved
  rcases twins.output asked with ⟨socket, declared, twinDeclared⟩ | ⟨cause, twinCause, undeclared, twinUndeclared, family⟩
  · have key : (⟨twin.id, socket⟩ : OutputKey) = OutputKey.along move ⟨node.id, socket⟩ := by
      rw [OutputKey.along, counterpart.id]
    have result := parallel.result? injective ⟨node.id, socket⟩ counterpart.above
    have state := parallel.state injective ⟨node.id, socket⟩ counterpart.above
    rw [← key] at result state
    by_cases visited : run.pass.state ⟨node.id, socket⟩ = .unvisited
    · rw [visited] at state
      rw [step_visit declared visited, step_visit twinDeclared state]
      have frames : Frame.key ⟨twin.id, twin.name, socket⟩ = (Frame.key ⟨node.id, node.name, socket⟩).along move := key
      have entered : scene.graph.Alongside other.graph root move (run.enter ⟨node.id, node.name, socket⟩)
          (twinRun.enter ⟨twin.id, twin.name, socket⟩) :=
        ⟨parallel.enter injective frames counterpart.above,
          alongside.tracked.enter sound.distinct counterpart.inside socket,
          alongside.twinTracked.enter otherSound.distinct counterpart.twinInside socket⟩
      have worked := work_lockstep sound otherSound catalog same resolves accepts otherAccepts digits counterpart socket
        entered
      exact worked.leave fun e _ _ alongside => alongside.related.leave injective frames counterpart.above e
    · exact step_visited declared twinDeclared counterpart.inside counterpart.twinInside alongside.tracked
        alongside.twinTracked parallel.quiet state result visited
  · rw [step_undeclared undeclared, step_undeclared twinUndeclared]
    exact .error (.failure family)

end Step

theorem resolve_lockstep (sound : scene.graph.Sound) (otherSound : other.graph.Sound)
    (catalog : other.catalog = scene.catalog) (same : scene.graph.SameCone other.graph root otherRoot move)
    (accepts : scene.host.Accepts) (otherAccepts : other.host.Accepts)
    (digits : other.host.limits.digits = scene.host.limits.digits) {breaks : Error → Prop} (depth : Nat) :
    ∀ node twin, scene.graph.Counterpart other.graph root move node twin → ∀ asked run twinRun,
      scene.graph.Alongside other.graph root move run twinRun →
      Lockstep breaks (scene.graph.Alongside other.graph root move) ((scene.resolve depth node asked).outcome run)
        ((other.resolve depth twin asked).outcome twinRun) := by
  induction depth with
  | zero => exact fun node twin _ asked run twinRun _ => .error (.refl .nesting)
  | succ depth ih =>
    intro node twin counterpart asked run twinRun alongside
    refine resolve_followed alongside.tracked alongside.twinTracked ?_
    exact step_lockstep sound otherSound catalog same ih accepts otherAccepts digits counterpart asked alongside

section Compile

variable (built : scene.graph.Built) (conforms : scene.catalog.Conforms) {options : Options} (valid : options.Valid)
  (accepts : scene.host.Accepts) {start otherStart : Root} {node twin : Node}
  (found : scene.graph.rootNode start = .ok node) (otherFound : other.graph.rootNode otherStart = .ok twin)
  (limits : other.host.limits = scene.host.limits)

include built conforms valid accepts found otherFound limits

theorem compile_lockstep {socket otherSocket : Option String} {world : σ} {otherWorld : τ} {breaks : Error → Prop}
    {relation : Run σ → Run τ → Prop}
    (lockstep : Lockstep breaks relation
      (scene.resolveFresh options node socket (scene.host.log (scene.opening node socket) world))
      (other.resolveFresh options twin otherSocket (other.host.log (other.opening twin otherSocket) otherWorld))) :
    (∃ result otherResult, ((scene.compile options start socket).outcome world).1 = .ok result ∧
        ((other.compile options otherStart otherSocket).outcome otherWorld).1 = .ok otherResult ∧
        result.source.isSome ∧ otherResult.source = result.source ∧
        otherResult.statementCount = result.statementCount) ∨
      (∃ failure otherFailure, ((scene.compile options start socket).outcome world).1 = .error (.failure failure) ∧
        ((other.compile options otherStart otherSocket).outcome otherWorld).1 = .error (.failure otherFailure) ∧
        otherFailure.family = failure.family) ∨
      (¬options.Fits scene.host.limits.digits ∧
        Overlong scene.host.limits.digits ((scene.compile options start socket).outcome world).1 ∧
        Overlong scene.host.limits.digits ((other.compile options otherStart otherSocket).outcome otherWorld).1) ∨
      ∃ cause, breaks cause ∧ ((other.compile options otherStart otherSocket).outcome otherWorld).1 =
        .error (cause.atRoot twin.name (twin.target otherSocket)) := by
  have inside := Graph.mem_of_rootNode found
  obtain ⟨_, rfl, failed, done⟩ := scene.compile_cases options found socket world
  obtain ⟨_, rfl, otherFailed, otherDone⟩ := other.compile_cases options otherFound otherSocket otherWorld
  rw [limits] at otherDone
  generalize resolved : scene.resolveFresh options node socket _ = left at lockstep failed done
  generalize other.resolveFresh options twin otherSocket _ = right at lockstep otherFailed otherDone
  cases lockstep with
  | ok e =>
    rw [done e rfl, otherDone e rfl]
    rcases resolveFresh_render built valid inside (congrArg Prod.fst resolved) scene.host.limits.digits with
      ⟨_, source, rendered⟩ | ⟨beyond, limit, bound, stopped⟩
    · rw [rendered]
      exact .inl ⟨_, _, rfl, rfl, rfl, rfl, rfl⟩
    · rw [stopped]
      exact .inr (.inr (.inl ⟨beyond, ⟨limit, bound, rfl⟩, ⟨limit, bound, rfl⟩⟩))
  | @error cause twinCause _ _ alike =>
    have alike := alike.atRoot node.name twin.name (node.target socket) (twin.target otherSocket)
    rw [failed cause rfl, otherFailed twinCause rfl]
    generalize twinCause.atRoot twin.name (twin.target otherSocket) = twinError at alike ⊢
    rcases resolveFresh_raises built valid conforms accepts inside (congrArg Prod.fst resolved) node.name
      (node.target socket) with ⟨failure, raised⟩ | ⟨limit, bound, rfl, beyond⟩
    · rw [raised] at alike ⊢
      cases alike with
      | failure family => exact .inr (.inl ⟨_, _, rfl, rfl, family.symm⟩)
      | refl => exact .inr (.inl ⟨_, _, rfl, rfl, rfl⟩)
    · cases alike
      exact .inr (.inr (.inl ⟨beyond, ⟨limit, bound, rfl⟩, ⟨limit, bound, rfl⟩⟩))
  | broken _ stop => exact .inr (.inr (.inr ⟨_, stop, otherFailed _ rfl⟩))

end Compile

/-- Two compiles from nodes with the same graph upstream both succeed, with the same source and as many statements, or
    both fail with failures of one family, or both stop at the same integer among the options. -/
theorem compile_same_cone (built : scene.graph.Built) (otherBuilt : other.graph.Built)
    (catalog : other.catalog = scene.catalog) (conforms : scene.catalog.Conforms) {options : Options}
    (valid : options.Valid) (accepts : scene.host.Accepts) (otherAccepts : other.host.Accepts)
    (limits : other.host.limits = scene.host.limits) {start otherStart : Root} {node twin : Node}
    (found : scene.graph.rootNode start = .ok node) (otherFound : other.graph.rootNode otherStart = .ok twin)
    (same : scene.graph.SameCone other.graph node.id twin.id move) (socket : Option String) (world : σ) (otherWorld : τ) :
    (∃ result otherResult, ((scene.compile options start socket).outcome world).1 = .ok result ∧
        ((other.compile options otherStart socket).outcome otherWorld).1 = .ok otherResult ∧
        result.source.isSome ∧ otherResult.source = result.source ∧
        otherResult.statementCount = result.statementCount) ∨
      (∃ failure otherFailure, ((scene.compile options start socket).outcome world).1 = .error (.failure failure) ∧
        ((other.compile options otherStart socket).outcome otherWorld).1 = .error (.failure otherFailure) ∧
        otherFailure.family = failure.family) ∨
      ¬options.Fits scene.host.limits.digits ∧
        Overlong scene.host.limits.digits ((scene.compile options start socket).outcome world).1 ∧
        Overlong scene.host.limits.digits ((other.compile options otherStart socket).outcome otherWorld).1 := by
  have digits : other.host.limits.digits = scene.host.limits.digits := by rw [limits]
  have counterpart : scene.graph.Counterpart other.graph node.id move node twin :=
    ⟨Graph.mem_of_rootNode found, .refl, Graph.mem_of_rootNode otherFound, same.moved.symm⟩
  have lockstep (before : σ) (otherBefore : τ) :
      Lockstep (fun _ => False) (scene.graph.Alongside other.graph node.id move)
        (scene.resolveFresh options node socket before) (other.resolveFresh options twin socket otherBefore) := by
    unfold resolveFresh
    rw [limits]
    exact resolve_lockstep built.sound otherBuilt.sound catalog same accepts otherAccepts digits _ node twin counterpart
      socket _ _ ⟨.fresh options before otherBefore, .fresh options before, .fresh options otherBefore⟩
  rcases compile_lockstep built conforms valid accepts found otherFound limits (lockstep _ _) with
    shaders | failures | overlong | ⟨_, stop, _⟩
  · exact .inl shaders
  · exact .inr (.inl failures)
  · exact .inr (.inr overlong)
  · exact stop.elim

end Scene

namespace Graph

theorem mem_of_mem_cone {graph : Graph} {root : NodeId} {ids : List NodeId}
    (closed : ∀ link ∈ graph.links, link.target ∈ ids → link.source ∈ ids) (start : root ∈ ids) {id : NodeId}
    (above : id ∈ graph.cone root) : id ∈ ids := by
  induction above using ReflTransGen.head_induction_on with
  | refl => exact start
  | head feeds _ ih =>
    obtain ⟨link, linked, rfl, rfl⟩ := feeds
    exact closed link linked ih

def taken : Graph where
  key := 1
  name := "Lane"
  nodes := [⟨⟨1, 0⟩, .component, "take", []⟩, ⟨⟨1, 1⟩, .uv, "mesh", []⟩]
  links := [⟨⟨1, 1⟩, "uv", ⟨1, 0⟩, "value"⟩]
  issued := 2

theorem taken_built : taken.Built := by
  have take := (Built.empty 1 "Lane").add .component "take" rfl (by decide) (by decide)
  have mesh := take.add .uv "mesh" rfl (by decide) (by decide)
  exact mesh.join ⟨⟨1, 1⟩, .uv, "mesh", []⟩ "uv" ⟨⟨1, 0⟩, .component, "take", []⟩ "value" rfl

/-- The component that swaps the coordinates has the same graph upstream, under other names, in another order, and with
    more downstream. -/
theorem swapped_taken : swapped.SameCone taken ⟨0, 1⟩ ⟨1, 0⟩ (fun id => ⟨1, 1 - id.serial⟩) := by
  have cone {id : NodeId} (above : id ∈ swapped.cone ⟨0, 1⟩) : id = ⟨0, 0⟩ ∨ id = ⟨0, 1⟩ := by
    have listed : id ∈ [(⟨0, 0⟩ : NodeId), ⟨0, 1⟩] := mem_of_mem_cone (by decide) (by decide) above
    simpa using listed
  have otherCone {id : NodeId} (above : id ∈ taken.cone ⟨1, 0⟩) : id = ⟨1, 1⟩ ∨ id = ⟨1, 0⟩ := by
    have listed : id ∈ [(⟨1, 1⟩ : NodeId), ⟨1, 0⟩] := mem_of_mem_cone (by decide) (by decide) above
    simpa using listed
  have source : (⟨0, 0⟩ : NodeId) ∈ swapped.cone ⟨0, 1⟩ :=
    .single ⟨⟨⟨0, 0⟩, "uv", ⟨0, 1⟩, "value"⟩, by simp [swapped], rfl, rfl⟩
  have otherSource : (⟨1, 1⟩ : NodeId) ∈ taken.cone ⟨1, 0⟩ :=
    .single ⟨⟨⟨1, 1⟩, "uv", ⟨1, 0⟩, "value"⟩, by simp [taken], rfl, rfl⟩
  refine ⟨⟨?_, ?_, ?_⟩, rfl, ?_, ?_⟩
  · intro id above
    rcases cone above with rfl | rfl
    · exact otherSource
    · exact .refl
  · intro id above other otherAbove moved
    rcases cone above with rfl | rfl <;> rcases cone otherAbove with rfl | rfl <;> first | rfl | (simp at moved)
  · intro id above
    rcases otherCone above with rfl | rfl
    · exact ⟨⟨0, 0⟩, source, rfl⟩
    · exact ⟨⟨0, 1⟩, .refl, rfl⟩
  · intro node inside above twin twinInside moved
    simp only [swapped, taken, List.mem_cons, List.not_mem_nil, or_false] at inside twinInside
    rcases inside with rfl | rfl | rfl | rfl
    · rcases twinInside with rfl | rfl
      · exact absurd moved (by decide)
      · exact ⟨rfl, rfl⟩
    · rcases twinInside with rfl | rfl
      · exact ⟨rfl, rfl⟩
      · exact absurd moved (by decide)
    · exact absurd (cone above) (by decide)
    · exact absurd (cone above) (by decide)
  · intro id above input
    rcases cone above with rfl | rfl
    · simp [inputLink?, swapped, taken]
    · by_cases value : input = "value"
      · simp [inputLink?, swapped, taken, value]
      · simp [inputLink?, swapped, taken, Ne.symm value]

end Graph

theorem Scene.compile_same_cone_taken :
    let scene : Scene (List Emission) := ⟨.shipped, .swapped, .recorder .standard⟩
    let other : Scene (List Emission) := ⟨.shipped, .taken, .recorder .standard⟩
    scene.graph.Built ∧ other.graph.Built ∧ Options.standard.Valid ∧ scene.host.Accepts ∧
      scene.graph.SameCone other.graph ⟨0, 1⟩ ⟨1, 0⟩ (fun id => ⟨1, 1 - id.serial⟩) ∧
      ∃ result otherResult, ((scene.compile .standard (.named "split") (some "y")).outcome []).1 = .ok result ∧
        ((other.compile .standard (.named "take") (some "y")).outcome []).1 = .ok otherResult ∧
        result.source.isSome ∧ otherResult.source = result.source ∧
        otherResult.statementCount = result.statementCount := by
  intro scene other
  have built : scene.graph.Built := Graph.swapped_built
  have otherBuilt : other.graph.Built := Graph.taken_built
  have catalog : other.catalog = scene.catalog := rfl
  have same : scene.graph.SameCone other.graph ⟨0, 1⟩ ⟨1, 0⟩ (fun id => ⟨1, 1 - id.serial⟩) := Graph.swapped_taken
  have found : scene.graph.rootNode (.named "split") = .ok ⟨⟨0, 1⟩, .component, "split", []⟩ := rfl
  have otherFound : other.graph.rootNode (.named "take") = .ok ⟨⟨1, 0⟩, .component, "take", []⟩ := rfl
  have compiled : ((scene.compile .standard (.named "split") (some "y")).outcome []).1.toOption.isSome = true := by
    decide +kernel
  have accepts : scene.host.Accepts := Host.recorder_accepts .standard
  refine ⟨built, otherBuilt, Options.standard_valid, accepts, same, ?_⟩
  have compiles := compile_same_cone built otherBuilt catalog Catalog.shipped_conforms Options.standard_valid accepts
    accepts rfl found otherFound same (some "y") [] []
  refine compiles.resolve_right ?_
  rintro (⟨failure, _, failed, _⟩ | ⟨_, ⟨limit, _, failed⟩, _⟩)
  · rw [failed] at compiled
    cases compiled
  · rw [failed] at compiled
    cases compiled

end ShaderGraph
