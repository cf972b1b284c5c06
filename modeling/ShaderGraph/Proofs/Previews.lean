import ShaderGraph.Proofs.Emissions
import ShaderGraph.Proofs.Graph.UniqueNames

namespace ShaderGraph

variable {σ τ : Type}

theorem putResult_fresh {results : List (String × CompileResult)} {name : String}
    (fresh : name ∉ results.map Prod.fst) (result : CompileResult) :
    putResult results name result = results ++ [(name, result)] := by
  have absent : results.any (·.1 == name) = false := by
    rw [List.any_eq_false]
    intro entry member same
    exact fresh (List.mem_map.mpr ⟨entry, member, by simpa using same⟩)
  rw [putResult, absent]
  rfl

theorem Graph.Sound.rootNode {graph : Graph} (sound : graph.Sound) {node : Node} (inside : node ∈ graph.nodes) :
    graph.rootNode (.node node) = .ok node :=
  member_eq_ok_iff.mpr (find?_of_mem sound inside)

theorem Graph.mem_ofKind {graph : Graph} {kind : NodeKind} {node : Node} :
    node ∈ graph.ofKind kind ↔ node ∈ graph.nodes ∧ node.kind = kind := by
  simp [ofKind]

namespace Scene

variable {scene : Scene σ} {other : Scene τ} {options : Options} {root : Root} {node : Node} {socket : Option String}

section Alike

variable {relation : σ → τ → Prop} (sound : scene.graph.Sound) (graph : other.graph = scene.graph)
  (catalog : other.catalog = scene.catalog) (limits : other.host.limits = scene.host.limits)
  (logs : Host.LogAlike (fun _ => relation) scene.host other.host)

include sound graph catalog limits logs

theorem tryCompile_agree (options : Options) (socket : Option String)
    (quiet : ∀ node, scene.graph.rootNode root = .ok node → node.kind ≠ .print) {world : σ} {twinWorld : τ}
    (related : relation world twinWorld) :
    Agree relation ((scene.tryCompile options root socket).outcome world)
      ((other.tryCompile options root socket).outcome twinWorld) := by
  obtain ⟨_, compiled, _⟩ := compile_agree options root socket sound graph catalog limits logs
    (fun node found print => absurd print (quiet node found)) world twinWorld related
  rw [tryCompile, tryCompile, Step.outcome_bind_ok (Step.outcome_attempt ..),
    Step.outcome_bind_ok (Step.outcome_attempt ..), compiled.outcome, graph]
  cases ((scene.compile options root socket).outcome world).1 with
  | ok result => exact Agree.intro rfl compiled.state
  | error error =>
    cases error with
    | failure failure => exact Agree.intro rfl (logs _ [] _ _ compiled.state)
    | _ => exact Agree.intro rfl compiled.state

theorem compilePreviews_agree (options : Options) {world : σ} {twinWorld : τ} (related : relation world twinWorld) :
    Agree relation ((scene.compilePreviews options).outcome world)
      ((other.compilePreviews options).outcome twinWorld) := by
  unfold compilePreviews
  rw [graph]
  have warned : Agree relation ((scene.warnIfNone (scene.graph.ofKind .preview)).outcome world)
      ((other.warnIfNone (scene.graph.ofKind .preview)).outcome twinWorld) := by
    unfold warnIfNone
    rw [graph]
    split
    · exact Agree.intro rfl (logs _ [] _ _ related)
    · exact Agree.intro rfl related
  apply warned.bind
  intro _ world twinWorld related
  refine Paired.foldlM _ (fun node member results world twinWorld related => ?_) related
  obtain ⟨inside, preview⟩ := Graph.mem_ofKind.mp member
  have quiet (own : Node) (found : scene.graph.rootNode (.node node) = .ok own) : own.kind ≠ .print := by
    rw [sound.rootNode inside] at found
    cases found
    rw [preview]
    decide
  apply (tryCompile_agree sound graph catalog limits logs options none quiet related).bind
  intro result world twinWorld related
  exact Agree.intro rfl related

end Alike

theorem tryCompile_ends (built : scene.graph.Built) (conforms : scene.catalog.Conforms) (valid : options.Valid)
    (accepts : scene.host.Accepts) (found : scene.graph.rootNode root = .ok node) (socket : Option String) (world : σ) :
    (∃ result, ((scene.tryCompile options root socket).outcome world).1 = .ok result) ∨
      ¬options.Fits scene.host.limits.digits ∧
        Overlong scene.host.limits.digits ((scene.tryCompile options root socket).outcome world).1 := by
  have inside := Graph.mem_of_rootNode found
  obtain ⟨start, _, failed, done⟩ := scene.compile_cases options found socket world
  cases resolved : (scene.resolveFresh options node socket start).1 with
  | ok e =>
    have compiled := done e resolved
    rcases resolveFresh_render built valid inside resolved scene.host.limits.digits with
      ⟨_, source, rendered⟩ | ⟨beyond, limit, bound, stopped⟩
    · rw [rendered] at compiled
      exact .inl ⟨_, tryCompile_ok compiled⟩
    · rw [stopped] at compiled
      exact .inr ⟨beyond, limit, bound, tryCompile_raised (by simp) compiled⟩
  | error cause =>
    have compiled := failed cause resolved
    rcases resolveFresh_raises built valid conforms accepts inside resolved node.name (node.target socket) with
      ⟨failure, raised⟩ | ⟨limit, bound, rfl, beyond⟩
    · rw [raised] at compiled
      exact .inl ⟨_, tryCompile_failed compiled⟩
    · exact .inr ⟨beyond, limit, bound, tryCompile_raised (by simp) compiled⟩

/-- What is reported on a node, whatever the host does with emissions and with messages. -/
def Reports (catalog : Catalog) (graph : Graph) (limits : Limits) (options : Options) (node : Node)
    (outcome : Except Error CompileResult) : Prop :=
  ∀ (τ : Type) (host : Host τ) (world : τ), host.limits = limits →
    ((tryCompile ⟨catalog, graph, host⟩ options (.node node) none).outcome world).1 = outcome

theorem exists_report {graph : Graph} (built : graph.Built) {catalog : Catalog} (conforms : catalog.Conforms)
    (valid : options.Valid) (inside : node ∈ graph.nodes) (quiet : node.kind ≠ .print) (limits : Limits) :
    ∃ outcome, Reports catalog graph limits options node outcome ∧
      ((∃ result, outcome = .ok result) ∨ ¬options.Fits limits.digits ∧ Overlong limits.digits outcome) := by
  let plain : Scene (List Emission) := ⟨catalog, graph, .recorder limits⟩
  have found : plain.graph.rootNode (.node node) = .ok node := built.sound.rootNode inside
  have accepts : plain.host.Accepts := Host.recorder_accepts limits
  refine ⟨_, ?_, tryCompile_ends built conforms valid accepts found none []⟩
  intro τ host world same
  let told : Scene τ := ⟨catalog, graph, host⟩
  have logs : Host.LogAlike (fun _ _ _ => True) plain.host told.host := fun _ _ _ _ _ => trivial
  have unprinted (own : Node) (same : plain.graph.rootNode (.node node) = .ok own) : own.kind ≠ .print := by
    rw [found] at same
    cases same
    exact quiet
  have sameGraph : told.graph = plain.graph := rfl
  have agree : Agree (fun _ _ => True) ((plain.tryCompile options (.node node) none).outcome [])
      ((told.tryCompile options (.node node) none).outcome world) :=
    tryCompile_agree built.sound sameGraph rfl same logs options none unprinted trivial
  exact agree.outcome

inductive Previewed (catalog : Catalog) (graph : Graph) (limits : Limits) (options : Options) (previews : List Node) :
    Except Error (List (String × CompileResult)) → Prop
  | entries {results : List (String × CompileResult)}
      (all : List.Forall₂ (fun node entry => entry.1 = node.name ∧ Reports catalog graph limits options node (.ok entry.2))
        previews results) : Previewed catalog graph limits options previews (.ok results)
  | overlong {node : Node} {limit : Nat} (inside : node ∈ previews) (bound : limits.digits = some limit)
      (beyond : ¬options.Fits limits.digits)
      (reports : Reports catalog graph limits options node (.error (.overlong limit))) :
      Previewed catalog graph limits options previews (.error (.overlong limit))

theorem Previewed.names {catalog : Catalog} {graph : Graph} {limits : Limits} {previews : List Node}
    {results : List (String × CompileResult)} (previewed : Previewed catalog graph limits options previews (.ok results)) :
    results.map Prod.fst = previews.map Node.name := by
  cases previewed with
  | entries all =>
    induction all with
    | nil => rfl
    | cons reports _ ih => rw [List.map_cons, List.map_cons, reports.1, ih]

/-- One node after the other: a report does not depend on those before it, and goes to the end of the results, as its name
    is not among theirs. -/
theorem previews_reported (scene : Scene σ) (options : Options) {previews : List Node}
    (each : ∀ node ∈ previews, ∃ outcome, Reports scene.catalog scene.graph scene.host.limits options node outcome ∧
      ((∃ result, outcome = .ok result) ∨
        ¬options.Fits scene.host.limits.digits ∧ Overlong scene.host.limits.digits outcome))
    (results : List (String × CompileResult)) (distinct : (results.map Prod.fst ++ previews.map Node.name).Nodup)
    (world : σ) :
    ∃ outcome, Previewed scene.catalog scene.graph scene.host.limits options previews outcome ∧
      (Step.outcome (previews.foldlM (fun results node => do
        return putResult results node.name (← scene.tryCompile options (.node node) none)) results) world).1 =
          outcome.map (results ++ ·) := by
  induction previews generalizing results world with
  | nil => exact ⟨.ok [], .entries .nil, by simp [Except.map]⟩
  | cons node previews ih =>
    obtain ⟨outcome, reports, ends⟩ := each node List.mem_cons_self
    have first := reports σ scene.host world rfl
    rcases ended : (scene.tryCompile options (.node node) none).outcome world with ⟨ending, after⟩
    rw [ended] at first
    simp only at first
    subst first
    rw [List.foldlM_cons]
    rcases ends with ⟨result, rfl⟩ | ⟨beyond, limit, bound, rfl⟩
    · have fresh : node.name ∉ results.map Prod.fst := by
        intro used
        exact (List.nodup_append.mp distinct).2.2 _ used _ (by simp) rfl
      have shifted : ((results ++ [(node.name, result)]).map Prod.fst ++ previews.map Node.name).Nodup := by
        simpa using distinct
      obtain ⟨outcome, previewed, rest⟩ :=
        ih (fun other member => each other (List.mem_cons_of_mem _ member)) _ shifted after
      rw [Step.outcome_bind_ok (by rw [Step.outcome_bind_ok ended, Step.outcome_pure]), putResult_fresh fresh, rest]
      cases previewed with
      | @entries others all =>
        exact ⟨.ok ((node.name, result) :: others), .entries (.cons ⟨rfl, reports⟩ all), by simp [Except.map]⟩
      | overlong inside bound beyond own => exact ⟨_, .overlong (List.mem_cons_of_mem _ inside) bound beyond own, rfl⟩
    · rw [Step.outcome_bind_error (Step.outcome_bind_error ended)]
      exact ⟨_, .overlong List.mem_cons_self bound beyond reports, rfl⟩

theorem compilePreviews_ends (scene : Scene σ) (built : scene.graph.Built) (conforms : scene.catalog.Conforms)
    (valid : options.Valid) (world : σ) :
    Previewed scene.catalog scene.graph scene.host.limits options (scene.graph.ofKind .preview)
      ((scene.compilePreviews options).outcome world).1 := by
  have names : ((scene.graph.ofKind .preview).map Node.name).Nodup :=
    built.names.sublist (List.filter_sublist.map Node.name)
  have warned : ∃ after, (scene.warnIfNone (scene.graph.ofKind .preview)).outcome world = (.ok (), after) := by
    unfold warnIfNone
    split <;> exact ⟨_, rfl⟩
  obtain ⟨after, warned⟩ := warned
  obtain ⟨outcome, previewed, ended⟩ := scene.previews_reported options (fun node member => by
    obtain ⟨inside, preview⟩ := Graph.mem_ofKind.mp member
    exact exists_report built conforms valid inside (by rw [preview]; decide) scene.host.limits) [] names after
  rw [compilePreviews, Step.outcome_bind_ok warned, ended]
  cases outcome <;> exact previewed

end Scene

def Graph.stuck : Graph where
  key := 0
  name := standardName
  nodes := [⟨⟨0, 0⟩, .preview, "loop", []⟩, ⟨⟨0, 1⟩, .uv, "uv", []⟩, ⟨⟨0, 2⟩, .preview, "view", []⟩]
  links := [⟨⟨0, 0⟩, "output", ⟨0, 0⟩, "input"⟩, ⟨⟨0, 1⟩, "uv", ⟨0, 2⟩, "input"⟩]
  issued := 3

theorem Graph.stuck_built : stuck.Built := by
  have loop := (Built.empty 0 standardName).add .preview "loop" rfl (by decide) (by decide)
  have uv := loop.add .uv "uv" rfl (by decide) (by decide)
  have view := uv.add .preview "view" rfl (by decide) (by decide)
  have around := view.join ⟨⟨0, 0⟩, .preview, "loop", []⟩ "output" ⟨⟨0, 0⟩, .preview, "loop", []⟩ "input" rfl
  exact around.join ⟨⟨0, 1⟩, .uv, "uv", []⟩ "uv" ⟨⟨0, 2⟩, .preview, "view", []⟩ "input" rfl

def Audience.refusing : Audience Unit := ⟨fun _ => [0], fun _ _ => throw (.host "enough")⟩

end ShaderGraph
