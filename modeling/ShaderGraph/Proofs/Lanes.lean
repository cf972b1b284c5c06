import ShaderGraph.Proofs.Denotation
import ShaderGraph.Proofs.Obstruction

namespace ShaderGraph

open Shading

variable {α : Type} [Zero α] [One α] (reading : Interpretation α)

namespace Shape

theorem fill_zero_means (shape : Shape) (scope : String → Option (List α)) :
    (shape.fill .zero).term.value? reading.meaning scope = some (.replicate shape.lanes 0) := by
  have plain : Binary64.zero.plain = "0.0" := by decide +kernel
  have fixed : Binary64.zero.fixed = "0.00000" := by decide +kernel
  cases shape <;>
    simp [fill, Code.term, Term.value?, Interpretation.meaning, Literal.render, plain, fixed, reading.numeral_zero,
      reading.numeral_zero_fixed, lanes]

theorem fill_one_means (shape : Shape) (scope : String → Option (List α)) :
    (shape.fill .one).term.value? reading.meaning scope = some (.replicate shape.lanes 1) := by
  have plain : Binary64.one.plain = "1.0" := by decide +kernel
  have fixed : Binary64.one.fixed = "1.00000" := by decide +kernel
  cases shape <;>
    simp [fill, Code.term, Term.value?, Interpretation.meaning, Literal.render, plain, fixed, reading.numeral_one,
      reading.numeral_one_fixed, lanes]

theorem padding_zero_means (missing : Nat) (some : 0 < missing) (most : missing < 4)
    (scope : String → Option (List α)) :
    (padding missing .zero).term.value? reading.meaning scope = .some (.replicate missing 0) := by
  obtain rfl | rfl | rfl : missing = 1 ∨ missing = 2 ∨ missing = 3 := by omega
  · have fixed : Binary64.zero.fixed = "0.00000" := by decide +kernel
    simp [padding, Code.term, Term.value?, Interpretation.meaning, Literal.render, fixed, reading.numeral_zero_fixed]
  · exact vec2.fill_zero_means reading scope
  · exact vec3.fill_zero_means reading scope

theorem lead_means {source target : Shape} (narrower : target.lanes < source.lanes) {lanes : List α}
    (length : lanes.length = source.lanes) :
    reading.meaning.swizzle target.lead lanes = some (lanes.take target.lanes) := by
  have indices : laneIndices? target.lead source.lanes = some (List.range target.lanes) := by
    cases source <;> cases target <;> first | decide | (simp [Shape.lanes] at narrower)
  have vector : ¬source.lanes < 2 := by
    have := target.lanes_pos
    omega
  have picked (count : Nat) (enough : count ≤ lanes.length) :
      (List.range count).mapM (fun i => lanes[i]?) = some (lanes.take count) := by
    induction count with
    | zero => rfl
    | succ count ih =>
      obtain ⟨x, here⟩ : ∃ x, lanes[count]? = some x := ⟨_, List.getElem?_eq_getElem enough⟩
      rw [List.range_succ, List.mapM_append, ih (by omega), List.take_add_one]
      simp [here]
  simp only [Interpretation.meaning, length, vector, if_false, indices, Option.bind_eq_bind, Option.bind_some,
    picked target.lanes (by omega)]

theorem convert_zero_means {source : Shape} (target : Shape) {operand : Code} {scope : String → Option (List α)}
    {lanes : List α} (means : operand.term.value? reading.meaning scope = some lanes)
    (length : lanes.length = source.lanes) :
    (source.convert target operand .zero).term.value? reading.meaning scope =
      some ((padded target.lanes lanes).take target.lanes) := by
  simp only [convert]
  split
  · rename_i same
    subst same
    simp [means, padded, length, List.take_of_length_le]
  · rename_i different
    split
    · rename_i wider
      have least := source.lanes_pos
      have most := target.lanes_le_four
      have filled := padding_zero_means reading (target.lanes - source.lanes) (by omega) (by omega) scope
      simp only [Code.term, Term.value?, means, filled, Option.bind_eq_bind, Option.bind_some]
      have sum : source.lanes + (target.lanes - source.lanes) = target.lanes := by omega
      simp [Interpretation.meaning, padded, length, sum, List.take_of_length_le]
    · rename_i notWider
      have narrower : target.lanes < source.lanes := by
        have : target.lanes ≠ source.lanes := fun same => different (lanes_injective same.symm)
        omega
      have none : target.lanes - lanes.length = 0 := by omega
      simp only [Code.term, Term.value?, means, Option.bind_eq_bind, Option.bind_some,
        lead_means reading narrower length]
      simp [padded, none]

theorem convert_widen_means {source : Shape} {operand : Code} {scope : String → Option (List α)} {lanes : List α}
    (means : operand.term.value? reading.meaning scope = some lanes) (length : lanes.length = source.lanes)
    (pad : Binary64) :
    (source.convert source.widen operand pad).term.value? reading.meaning scope =
      some (if lanes.length = 4 then lanes else lanes ++ [reading.numeral pad.fixed]) := by
  have literal : (Code.literal (.fixed pad)).term.value? reading.meaning scope = some [reading.numeral pad.fixed] := rfl
  cases source with
  | vec4 => simp [widen, convert, means, length, Shape.lanes]
  | _ =>
    simp only [widen, convert, Shape.lanes, reduceCtorEq, if_false, Nat.reduceLT, if_true, Nat.reduceSub, padding]
      at length ⊢
    rw [Code.term, Term.value?, means, literal]
    simp [Interpretation.meaning, length, Shape.lanes]

end Shape

namespace Shading

theorem laneNames_number {lane : String} (named : lane ∈ laneNames) :
    ∃ i, laneNumber? lane = some i ∧ ∀ count, laneIndices? lane count = if i < count then some [i] else none := by
  simp only [laneNames, List.mem_cons, List.not_mem_nil, or_false] at named
  have single (c : Char) (i : Nat) (place : laneIndex? c = some i) (count : Nat) :
      laneIndices? (.ofList [c]) count = if i < count then some [i] else none := by
    simp only [laneIndices?, String.toList_ofList, List.mapM_cons, List.mapM_nil, place, Option.filter]
    split <;> rename_i inside <;> simp_all
  rcases named with rfl | rfl | rfl | rfl | rfl | rfl | rfl | rfl
  · exact ⟨0, by decide, single 'x' 0 (by decide)⟩
  · exact ⟨1, by decide, single 'y' 1 (by decide)⟩
  · exact ⟨2, by decide, single 'z' 2 (by decide)⟩
  · exact ⟨3, by decide, single 'w' 3 (by decide)⟩
  · exact ⟨0, by decide, single 'r' 0 (by decide)⟩
  · exact ⟨1, by decide, single 'g' 1 (by decide)⟩
  · exact ⟨2, by decide, single 'b' 2 (by decide)⟩
  · exact ⟨3, by decide, single 'a' 3 (by decide)⟩

theorem pick_means {lane : String} (named : lane ∈ laneNames) {shape : Shape}
    (inside : typing.swizzle lane shape = some .float) {lanes : List α} (length : lanes.length = shape.lanes) :
    ∃ x, pick lanes lane = some [x] ∧ reading.meaning.swizzle lane lanes = some [x] := by
  obtain ⟨i, place, indices⟩ := laneNames_number named
  have vector : ¬shape.lanes < 2 := by
    cases shape with
    | float => simp [typing] at inside
    | _ => decide
  have within : i < shape.lanes := by
    apply Decidable.byContradiction
    intro outside
    simp [typing, indices, outside] at inside
  obtain ⟨x, here⟩ : ∃ x, lanes[i]? = some x := ⟨_, List.getElem?_eq_getElem (length ▸ within)⟩
  refine ⟨x, by simp [pick, place, here], ?_⟩
  simp only [Interpretation.meaning, length, vector, indices, within, if_true, if_false]
  simp [here]

theorem clamp_means (lanes : List α) :
    reading.meaning.clamp lanes (.replicate lanes.length 0) (.replicate lanes.length 1) =
      some (lanes.map (reading.clamp · 0 1)) := by
  simp only [Interpretation.meaning, List.length_replicate, and_self, if_true, Option.some.injEq]
  induction lanes with
  | nil => rfl
  | cons x lanes ih => simpa [List.replicate_succ] using ih

def Interpretation.mesh : Scope (List α) :=
  [("uv", .ofFn reading.uv), ("world_normal", .ofFn reading.normal), ("world_position", .ofFn reading.position)]

theorem Interpretation.mesh_isSome {name : String} : (reading.mesh.lookup name).isSome ↔ name ∈ NameTable.meshNames := by
  simp only [mesh, lookup_cons, NameTable.meshNames, List.mem_cons]
  split
  · simp_all
  · split
    · simp_all
    · split <;> simp_all

theorem Interpretation.rule?_mesh (options : Options) {node : Node} {whole var : String} {shape : Shape}
    (kind : node.kind.mesh? = some (whole, var, shape)) :
    ∃ lanes, reading.mesh.lookup var = some lanes ∧ lanes.length = shape.lanes ∧
      ∀ output input, reading.rule? options node output input = output.bind (part whole lanes) := by
  cases source : node.kind <;> rw [source] at kind <;> cases kind
  · exact ⟨.ofFn reading.normal, rfl, by simp [Shape.lanes], fun _ _ => by simp [rule?, source]⟩
  · exact ⟨.ofFn reading.uv, rfl, by simp [Shape.lanes], fun _ _ => by simp [rule?, source]⟩
  · exact ⟨.ofFn reading.position, rfl, by simp [Shape.lanes], fun _ _ => by simp [rule?, source]⟩

theorem Interpretation.rule?_relay (options : Options) {node : Node} {socket : String}
    (kind : node.kind.relay? = some socket) (output : Option String) (input : String → List α) :
    reading.rule? options node output input = some (input socket) := by
  cases relay : node.kind <;> rw [relay] at kind <;> cases kind <;> simp [rule?, relay]

end Shading

variable {reading}

structure Expression.Means (reading : Interpretation α) (values : Scope (List α)) (e : Expression) (lanes : List α) :
    Prop where
  value : e.operand.term.value? reading.meaning (values.lookup ·) = some lanes
  length : lanes.length = e.shape.lanes

theorem Expression.Means.mono {values wider : Scope (List α)} {e : Expression} {lanes : List α}
    (means : e.Means reading values lanes) (extended : values.Extends wider) : e.Means reading wider lanes :=
  ⟨(value?_lawful reading.meaning).extends extended means.value, means.length⟩

theorem Expression.zero_means (values : Scope (List α)) (shape : Shape) :
    (Expression.zero shape).Means reading values (.replicate shape.lanes 0) :=
  ⟨shape.fill_zero_means reading _, by simp [Expression.zero]⟩

theorem NodeScope.laneOf_means {values : Scope (List α)} {e : Expression} {lanes : List α}
    (means : e.Means reading values lanes) :
    (laneOf e).term.value? reading.meaning (values.lookup ·) = some [lanes.headD 0] := by
  rw [laneOf, Shape.convert_zero_means reading .float means.value means.length]
  have length := means.length
  have least := e.shape.lanes_pos
  cases lanes with
  | nil => simp at length; omega
  | cons x lanes => simp [padded, Shape.lanes]

namespace NameTable

variable {names : NameTable} {values : Scope (List α)}

abbrev Means (reading : Interpretation α) (names : NameTable) (values : Scope (List α)) : Prop :=
  names.Runs (Term.value? reading.meaning) reading.mesh values

theorem Means.mesh (means : names.Means reading values) {var : String} {lanes : List α}
    (known : reading.mesh.lookup var = some lanes) : values.lookup var = some lanes :=
  (execute_executed (value?_lawful reading.meaning) means.written means.ran).wider var lanes known

theorem Means.variable (means : names.Means reading values) {var : String} {lanes : List α}
    (known : reading.mesh.lookup var = some lanes) {shape : Shape} (length : lanes.length = shape.lanes) :
    Word var ∧ Expression.Means reading values ⟨[], shape, var⟩ lanes := by
  have word := meshNames_word (reading.mesh_isSome.mp (Option.isSome_of_eq_some known))
  refine ⟨word, ?_, length⟩
  simp [Expression.operand, word.ne_empty, Code.term, Term.value?, means.mesh known]

def MeansOn (reading : Interpretation α) (values : Scope (List α)) (lanes : List α)
    (result : Expression × NameTable) : Prop :=
  ∃ later, result.2.Means reading later ∧ values.Extends later ∧ result.1.Means reading later lanes

theorem Means.assigned (means : names.Means reading values) (e : Expression) {name : String} {code : Code}
    (writes : Writes name code) {lanes : List α}
    (valued : code.term.value? reading.meaning (values.lookup ·) = some lanes) {shape : Shape}
    (length : lanes.length = shape.lanes) : MeansOn reading values lanes (e.assigned names name code shape) := by
  obtain ⟨later, runs, wider, bound⟩ := means.declare (value?_lawful reading.meaning)
    (fun _ => reading.mesh_isSome.mp) writes.plain writes.proper valued
  have word := names.declare_word name code.render
  simp only [MeansOn, Expression.assigned]
  generalize names.declare name code.render = issued at *
  refine ⟨later, runs, wider, ?_, length⟩
  simp [Expression.bind, Expression.operand, word.ne_empty, Code.term, Term.value?, bound]

end NameTable

namespace NodeScope

open NameTable

variable {scope : NodeScope} {names : NameTable} {values : Scope (List α)}

theorem sampled_means (valid : scope.options.Valid) (means : names.Means reading values) :
    MeansOn reading values (reading.color scope.options) (scope.sampled names) := by
  refine means.assigned _ (sample_writes valid) ?_ (by simp [Interpretation.color, Shape.lanes])
  have uv : values.lookup "uv" = some [reading.uv 0, reading.uv 1] := means.mesh rfl
  simp only [Code.term, Term.value?, uv, Option.bind_eq_bind, Option.bind_some]
  rfl

theorem lane_means {lane : String} (means : names.Means reading values) {e : Expression} {lanes : List α}
    (given : e.Means reading values lanes) (word : Word e.var) (named : lane ∈ laneNames)
    (inside : typing.swizzle lane e.shape = some .float) :
    ∃ x, pick lanes lane = some [x] ∧ MeansOn reading values [x]
      (e.assigned names (e.var ++ "_" ++ lane) (.swizzle (.var e.var) lane) .float) := by
  obtain ⟨x, picked, swizzled⟩ := pick_means reading named inside given.length
  have proper : (Code.var e.var).Proper := word
  refine ⟨x, picked, means.assigned e (lane_writes proper trivial named _) ?_ rfl⟩
  have valued := given.value
  rw [Expression.operand, if_neg word.ne_empty] at valued
  simp only [Code.term, Term.value?] at valued ⊢
  simp only [valued, Option.bind_eq_bind, Option.bind_some, swizzled]

theorem saturate_means (means : names.Means reading values) {e : Expression} {lanes : List α}
    (given : e.Means reading values lanes) (proper : e.operand.Proper) :
    MeansOn reading values (lanes.map (reading.clamp · 0 1)) (e.assigned names (e.stem ++ "_saturate")
      (.clamp e.operand (e.shape.fill .zero) (e.shape.fill .one)) e.shape) := by
  refine means.assigned e (saturate_writes proper) ?_ (by simp [given.length])
  simp only [Code.term, Term.value?, given.value, Shape.fill_zero_means, Shape.fill_one_means, Option.bind_eq_bind,
    Option.bind_some]
  rw [← given.length, clamp_means]

theorem component_means (means : names.Means reading values) {e : Expression} {lanes : List α}
    (given : e.Means reading values lanes) (proper : e.operand.Proper) {lane : String} (named : lane ∈ laneNames) :
    ∃ x, pick (padded 4 lanes) lane = some [x] ∧ MeansOn reading values [x] (e.assigned names (e.stem ++ "_" ++ lane)
      (.swizzle (e.shape.convert .vec4 e.operand .zero) lane) .float) := by
  have four : (padded 4 lanes).length = 4 := by
    have most := e.shape.lanes_le_four
    simp [padded, given.length]
    omega
  obtain ⟨x, picked, swizzled⟩ := pick_means reading named (laneNames_typed named) four
  refine ⟨x, picked, means.assigned e (component_writes proper named) ?_ rfl⟩
  have whole := Shape.convert_zero_means reading .vec4 given.value given.length
  rw [Shape.lanes, List.take_of_length_le (Nat.le_of_eq four)] at whole
  simp only [Code.term, Term.value?, whole, Option.bind_eq_bind, Option.bind_some, swizzled]

theorem vector_means (means : names.Means reading values) {x y z w : Expression} {lx ly lz lw : List α}
    (hx : x.Means reading values lx) (hy : y.Means reading values ly) (hz : z.Means reading values lz)
    (hw : w.Means reading values lw) (writes : Writes (names.next "vec").1
      (.compose (laneOf x) (laneOf y) (laneOf z) (laneOf w))) :
    MeansOn reading values [lx.headD 0, ly.headD 0, lz.headD 0, lw.headD 0]
      ((gathered x y z w).assigned (names.next "vec").2 (names.next "vec").1
        (.compose (laneOf x) (laneOf y) (laneOf z) (laneOf w)) .vec4) := by
  have next : (names.next "vec").2.Means reading values := runs_next means "vec"
  refine next.assigned _ writes ?_ rfl
  simp only [Code.term, Term.value?, laneOf_means hx, laneOf_means hy, laneOf_means hz, laneOf_means hw,
    Option.bind_eq_bind, Option.bind_some]
  rfl

/-- A rule makes of the lanes at its inputs the lanes that the direct meaning gives to the node's output. -/
theorem Derives.means {result : Expression × NameTable} (derived : scope.Derives names result)
    (valid : scope.options.Valid) (accepted : scope.node.Accepted)
    (outputs : ∀ lane, scope.output = some lane → lane ∈ scope.node.kind.outputs)
    (means : names.Means reading values) (proper : ∀ entry ∈ scope.inputs, entry.2.operand.Proper)
    {input : String → List α}
    (inputs : ∀ socket e, scope.inputs.lookup socket = some e → e.Means reading values (input socket)) :
    ∃ lanes, reading.rule? scope.options scope.node scope.output input = some lanes ∧
      MeansOn reading values lanes result := by
  have given {socket : String} {e : Expression} (found : scope.inputs.lookup socket = some e) : e.operand.Proper :=
    proper (socket, e) (mem_of_lookup found)
  cases derived with
  | mesh kind output =>
    obtain ⟨lanes, known, length, rule⟩ := reading.rule?_mesh scope.options kind
    refine ⟨lanes, by simp [rule, output, part], values, means, .refl _, (means.variable known length).2⟩
  | meshLane kind output other =>
    obtain ⟨lanes, known, length, rule⟩ := reading.rule?_mesh scope.options kind
    obtain ⟨word, whole⟩ := means.variable known length
    obtain ⟨named, inside⟩ := NodeKind.mesh?_lane kind (outputs _ output) other
    obtain ⟨x, picked, lane⟩ := lane_means means whole word named inside
    exact ⟨[x], by simp [rule, output, part, other, picked], lane⟩
  | color kind output =>
    exact ⟨_, by simp [Interpretation.rule?, kind, output, part], sampled_means valid means⟩
  | channel kind output other =>
    obtain ⟨middle, sampled, wider, color⟩ := sampled_means valid means
    have word : Word (scope.sampled names).1.var := names.declare_word _ _
    have named := NodeKind.texture_lane (kind ▸ outputs _ output) other
    obtain ⟨x, picked, later, runs, laterWider, lane⟩ := lane_means sampled color word named (laneNames_typed named)
    refine ⟨[x], ?_, later, runs, wider.trans laterWider, lane⟩
    simp [Interpretation.rule?, kind, output, part, other, picked]
  | @extend e pad kind found amount =>
    obtain ⟨x, finite, number⟩ := accepted.amount kind
    rw [number] at amount
    cases amount
    have value := inputs _ _ found
    refine ⟨_, ?_, means.assigned _ (extend_writes (given found) finite)
      (Shape.convert_widen_means reading value.value value.length pad) ?_⟩
    · simp only [Interpretation.rule?, kind, number]
    · have most := e.shape.lanes_le_four
      rw [Shape.lanes_widen, ← value.length]
      have length := value.length
      split
      · omega
      · simp only [List.length_append, List.length_singleton]
        omega
  | saturate kind found =>
    exact ⟨_, by simp [Interpretation.rule?, kind], saturate_means means (inputs _ _ found) (given found)⟩
  | component kind found output =>
    have named := NodeKind.component_lane (kind ▸ outputs _ output)
    obtain ⟨x, picked, lane⟩ := component_means means (inputs _ _ found) (given found) named
    exact ⟨[x], by simp [Interpretation.rule?, kind, output, picked], lane⟩
  | vector kind first second third fourth =>
    exact ⟨_, by simp [Interpretation.rule?, kind], vector_means means (inputs _ _ first) (inputs _ _ second)
      (inputs _ _ third) (inputs _ _ fourth)
      (vector_writes (given first) (given second) (given third) (given fourth) names)⟩
  | relay kind found =>
    exact ⟨_, reading.rule?_relay scope.options kind scope.output input, values, means, .refl _, inputs _ _ found⟩

end NodeScope

/-- Every settled result has the lanes that its output has by the direct meaning of the graph. -/
def Record.Means (reading : Interpretation α) (graph : Graph) (options : Options) (record : Record) : Prop :=
  ∃ values, record.names.Means reading values ∧ ∀ entry ∈ record.memo,
    ∃ lanes, entry.2.Means reading values lanes ∧ graph.Denotes reading options entry.1.node entry.1.socket lanes

theorem Record.means_empty (reading : Interpretation α) (graph : Graph) (options : Options) :
    Record.Means reading graph options ⟨[], .empty⟩ :=
  ⟨reading.mesh, NameTable.runs_empty _ _, by simp⟩

theorem Graph.Feed.means {graph : Graph} (sound : graph.Sound) {options : Options} {values : Scope (List α)}
    {memo : List (OutputKey × Expression)}
    (entries : ∀ entry ∈ memo, ∃ lanes, entry.2.Means reading values lanes ∧
      graph.Denotes reading options entry.1.node entry.1.socket lanes)
    {node : Node} {socket : InputSocket} {e : Expression} (feed : graph.Feed memo node socket e) :
    ∃ lanes, e.Means reading values lanes ∧
      (∀ link, graph.inputLink? node.id socket.name = some link →
        graph.Denotes reading options link.source (some link.output) lanes) ∧
      (graph.inputLink? node.id socket.name = none → lanes = .replicate socket.shape.lanes 0) := by
  cases feed with
  | @linked link source e joined found declared known =>
    obtain ⟨lanes, means, denotes⟩ := entries _ known
    rw [(Graph.mem_of_find? found).2] at denotes
    refine ⟨lanes, means, ?_, by simp [joined]⟩
    intro other same
    rw [joined] at same
    cases same
    exact denotes
  | zero dangling _ =>
    refine ⟨_, Expression.zero_means values socket.shape, ?_, fun _ => rfl⟩
    intro link joined
    obtain ⟨_, _, found, _⟩ := sound.source joined
    rw [dangling link joined] at found
    cases found

namespace Scene

variable {σ : Type} {scene : Scene σ} {options : Options}

theorem Fed.means (sound : scene.graph.Sound) (conforms : scene.catalog.Conforms) {values : Scope (List α)}
    {memo : List (OutputKey × Expression)}
    (entries : ∀ entry ∈ memo, ∃ lanes, entry.2.Means reading values lanes ∧
      scene.graph.Denotes reading options entry.1.node entry.1.socket lanes)
    {node : Node} {inputs : Inputs} (fed : scene.Fed memo node (scene.catalog node.kind).inputs inputs) :
    ∃ input : String → List α,
      (∀ socket e, inputs.lookup socket = some e → e.Means reading values (input socket)) ∧
      ∀ socket ∈ node.kind.inputs,
        (∀ link, scene.graph.inputLink? node.id socket.name = some link →
          scene.graph.Denotes reading options link.source (some link.output) (input socket.name)) ∧
        (scene.graph.inputLink? node.id socket.name = none → input socket.name = .replicate socket.shape.lanes 0) := by
  have entry {name : String} {e : Expression} (found : inputs.lookup name = some e) :
      ∃ own ∈ (scene.catalog node.kind).inputs, name = own.name ∧ scene.graph.Feed memo node own e :=
    fed.of_mem (mem_of_lookup found)
  -- An input without an expression has no lanes; rules do not read it.
  refine ⟨fun name => ((inputs.lookup name).bind (·.operand.term.value? reading.meaning (values.lookup ·))).getD [],
    ?_, ?_⟩
  · intro name e found
    obtain ⟨_, _, _, feed⟩ := entry found
    obtain ⟨lanes, means, _⟩ := feed.means sound entries
    simpa [found, means.value] using means
  · intro socket declared
    obtain ⟨own, owned, same, _⟩ := conforms.socket declared
    obtain ⟨e, found⟩ := Option.isSome_iff_exists.mp (fed.lookup owned)
    rw [same] at found
    obtain ⟨other, otherOwned, named, feed⟩ := entry found
    obtain ⟨lanes, means, linked, unlinked⟩ := feed.means sound entries
    rw [← named] at linked unlinked
    rw [conforms.shape otherOwned declared named.symm] at unlinked
    simpa [found, means.value] using ⟨linked, unlinked⟩

theorem settles_means (sound : scene.graph.Sound) (conforms : scene.catalog.Conforms) (valid : options.Valid)
    {record later : Record} (settles : scene.Settles (· ∈ scene.graph.nodes) options record later)
    (typed : record.Typed options) (means : record.Means reading scene.graph options) :
    later.Means reading scene.graph options := by
  obtain ⟨values, names, entries⟩ := means
  cases settles with
  | @output node asked socket inputs result inside declared fed derived =>
    have proper : ∀ entry ∈ inputs, entry.2.operand.Proper := by
      obtain ⟨types, table, known⟩ := typed
      exact fun entry member => table.operand_proper (fed.typed known entry member)
    obtain ⟨input, given, sources⟩ := fed.means sound conforms entries
    obtain ⟨lanes, rule, wider, laterNames, extended, result⟩ :=
      derived.means valid (sound.accepted node inside) (Node.output_mem declared) names proper given
    refine ⟨wider, laterNames, ?_⟩
    intro entry member
    rcases List.mem_cons.mp member with rfl | member
    · exact ⟨lanes, result, .output inside (fun socket declared => (sources socket declared).1)
        (fun socket declared => (sources socket declared).2) rule⟩
    · obtain ⟨lanes, earlier, denotes⟩ := entries entry member
      exact ⟨lanes, earlier.mono extended, denotes⟩

end Scene

end ShaderGraph
