/-
# History — what a builder remembers

A builder remembers three things from the calls that succeeded: the objects
that were begun and not ended, the declaration made or ended last, and what is
to be included.  All three can be read off these calls and their replies
(`Builder.history`), and this is what the builder remembers at any time
(`Follows`).  What a call does can then be said in terms of the calls before
it (`Accounted`).
-/
import Mathlib.Data.List.Nodup
import TypeSchema.Proofs.Builder

namespace TypeSchema

open Declaration (Id)
open TypeSchema.Graph (Built)

namespace Builder

/-! ## Successful calls -/

/-- A call that succeeded; those that make or end a declaration reply with it. -/
structure Event where
  call : Call
  reply : Option Id

/-- Calls that succeeded, the oldest one first. -/
abbrev History : Type := List Event

/-- The calls that succeed one after the other; those that fail are passed over. -/
def history : Builder → List Call → History
  | _, [] => []
  | b, c :: calls =>
    match c.perform b with
    | .ok reply b' => ⟨c, reply⟩ :: history b' calls
    | .error _ b' => history b' calls

/-- What the call asks to include. -/
def Call.include? : Call → Option Include
  | .addInclude path place => some ⟨path, place⟩
  | _ => none

namespace History

/-- The objects that were begun. -/
def begun (past : History) : List Id :=
  past.filterMap fun e => if e.call.opens then e.reply else none

/-- The objects that were ended. -/
def ended (past : History) : List Id :=
  past.filterMap fun e => if e.call = .endObject then e.reply else none

/-- The objects that were begun and not ended. -/
def pending (past : History) : List Id := past.begun.filter (· ∉ past.ended)

/-- The object begun last that was not ended, or else the root. -/
def innermost (past : History) (root : Id) : Id := past.pending.getLastD root

/-- The declaration made last, or the object ended last if that was later, or else the root. -/
def latest (past : History) (root : Id) : Id := (past.filterMap (·.reply)).getLastD root

/-- What was to be included. -/
def includes (past : History) : List Include := past.filterMap (·.call.include?)

end History

/-! ## What the builder remembers -/

/-- The builder remembers what happened. -/
structure Follows (root : Id) (past : History) (b : Builder) : Prop where
  rooted : b.root = root
  opened : b.opened.reverse = past.pending
  current : b.current = past.latest root
  includes : b.includes = past.includes
  begun_lt : ∀ id ∈ past.begun, id < b.graph.size
  distinct : past.begun.Nodup
  ended_begun : ∀ id ∈ past.ended, id ∈ past.begun

section Follows

variable {root : Id} {past : History} {b b' : Builder} {c : Call} {reply : Option Id}

theorem follows_start (g : Graph) (features : Features) (root : Id) (isExternal : Bool) :
    Follows root [] (.start g features root isExternal) :=
  ⟨rfl, rfl, rfl, rfl, nofun, .nil, nofun⟩

theorem Call.plain_of_change {f : Declaration → Except SchemaError Declaration}
    (h : c.change? = some f) :
    c.declares = false ∧ c.opens = false ∧ c ≠ .endObject ∧ c.include? = none := by
  cases c <;> cases h <;> exact ⟨rfl, rfl, nofun, rfl⟩

theorem Call.plain_of_declares (h : c.declares) : c ≠ .endObject ∧ c.include? = none := by
  cases c <;> cases h <;> exact ⟨nofun, rfl⟩

theorem History.latest_concat (e : Event) :
    History.latest (past ++ [e]) root = e.reply.getD (past.latest root) := by
  cases hr : e.reply with
  | none => simp [latest, List.filterMap_append, hr]
  | some id => simp [latest, List.filterMap_append, hr]

theorem Follows.scope (h : Follows root past b) : b.scope = past.innermost root := by
  rw [History.innermost, ← h.opened, Builder.scope, h.rooted]
  cases b.opened with
  | nil => rfl
  | cons id rest => simp

theorem History.begun_concat (e : Event) :
    History.begun (past ++ [e]) = past.begun ++ (if e.call.opens then e.reply else none).toList := by
  simp only [begun, List.filterMap_append, List.filterMap_cons, List.filterMap_nil]
  cases (if e.call.opens then e.reply else none) <;> rfl

theorem History.ended_concat (e : Event) :
    History.ended (past ++ [e])
      = past.ended ++ (if e.call = .endObject then e.reply else none).toList := by
  simp only [ended, List.filterMap_append, List.filterMap_cons, List.filterMap_nil]
  cases (if e.call = .endObject then e.reply else none) <;> rfl

theorem History.includes_concat (e : Event) :
    History.includes (past ++ [e]) = past.includes ++ e.call.include?.toList := by
  simp only [includes, List.filterMap_append, List.filterMap_cons, List.filterMap_nil]
  cases e.call.include? <;> rfl

namespace Follows

/-- A call that begins and ends no object leaves what is pending. -/
theorem quiet (h : Follows root past b) {e : Event} (opens : e.call.opens = false)
    (ends : e.call ≠ .endObject) (rooted : b'.root = b.root) (opened : b'.opened = b.opened)
    (size : b.graph.size ≤ b'.graph.size) (current : b'.current = e.reply.getD b.current)
    (includes : b'.includes = b.includes ++ e.call.include?.toList) :
    Follows root (past ++ [e]) b' := by
  have begun : History.begun (past ++ [e]) = past.begun := by
    rw [History.begun_concat, opens]
    exact List.append_nil _
  have ended : History.ended (past ++ [e]) = past.ended := by
    rw [History.ended_concat, if_neg ends]
    exact List.append_nil _
  refine ⟨rooted.trans h.rooted, ?_, ?_, ?_, ?_, begun.symm ▸ h.distinct, ?_⟩
  · rw [History.pending, begun, ended, opened]
    exact h.opened
  · rw [History.latest_concat, current, h.current]
  · rw [History.includes_concat, includes, h.includes]
  · rw [begun]
    exact fun id hid => Nat.lt_of_lt_of_le (h.begun_lt id hid) size
  · rw [begun, ended]
    exact h.ended_begun

/-- A new object is the innermost one. -/
theorem begins (h : Follows root past b) (d : Declaration) (opens : c.opens) :
    Follows root (past ++ [⟨c, some b.graph.size⟩])
      { b.declared d with opened := b.graph.size :: b.opened } := by
  obtain ⟨ends, plain⟩ : c ≠ .endObject ∧ c.include? = none := by
    cases c <;> cases opens
    exact ⟨nofun, rfl⟩
  have begun : History.begun (past ++ [⟨c, some b.graph.size⟩])
      = past.begun ++ [b.graph.size] := by
    rw [History.begun_concat, if_pos opens]
    rfl
  have ended : History.ended (past ++ [⟨c, some b.graph.size⟩]) = past.ended := by
    rw [History.ended_concat, if_neg ends]
    exact List.append_nil _
  -- what is begun now is none of the objects before
  have fresh : b.graph.size ∉ past.begun := fun hid => Nat.lt_irrefl _ (h.begun_lt _ hid)
  have pending : b.graph.size ∉ past.ended := fun hid => fresh (h.ended_begun _ hid)
  have grown : b.graph.size < (b.graph.adopt d).size := by
    rw [Graph.size_adopt]
    exact Nat.lt_succ_self _
  refine ⟨h.rooted, ?_, (History.latest_concat ⟨c, some b.graph.size⟩).symm, ?_, ?_, ?_, ?_⟩
  · show (b.graph.size :: b.opened).reverse = _
    rw [History.pending, begun, ended, List.filter_append, List.reverse_cons, h.opened,
      List.filter_cons_of_pos (by simpa using pending)]
    rfl
  · rw [History.includes_concat, plain, ← h.includes]
    exact (List.append_nil _).symm
  · rw [begun]
    intro id hid
    rcases List.mem_append.mp hid with hid | hid
    · exact Nat.lt_trans (h.begun_lt id hid) grown
    · rw [List.mem_singleton.mp hid]
      exact grown
  · rw [begun, ← List.concat_eq_append]
    exact h.distinct.concat fresh
  · rw [begun, ended]
    exact fun id hid => List.mem_append_left _ (h.ended_begun id hid)

/-- The innermost object is ended. -/
theorem ends (h : Follows root past b) {id : Id} {rest : List Id} (opened : b.opened = id :: rest) :
    Follows root (past ++ [⟨.endObject, some id⟩]) { b with opened := rest, current := id } := by
  have begun : History.begun (past ++ [⟨.endObject, some id⟩]) = past.begun := by
    rw [History.begun_concat]
    exact List.append_nil _
  have ended : History.ended (past ++ [⟨.endObject, some id⟩]) = past.ended ++ [id] := by
    rw [History.ended_concat, if_pos rfl]
    rfl
  have pending : past.pending = rest.reverse ++ [id] := by
    rw [← h.opened, opened, List.reverse_cons]
  have others : ∀ i ∈ rest.reverse, i ≠ id := by
    have distinct : past.pending.Nodup := h.distinct.filter _
    rw [pending, List.nodup_append] at distinct
    exact fun i hi => distinct.2.2 i hi id (List.mem_singleton_self id)
  have split : History.pending (past ++ [⟨.endObject, some id⟩])
      = past.pending.filter (· ≠ id) := by
    rw [History.pending, begun, ended, History.pending, List.filter_filter]
    exact List.filter_congr fun i _ => by simp [and_comm]
  refine ⟨h.rooted, ?_, (History.latest_concat ⟨.endObject, some id⟩).symm, ?_,
    begun.symm ▸ h.begun_lt, begun.symm ▸ h.distinct, ?_⟩
  · rw [split, pending, List.filter_append, List.filter_eq_self.mpr (by simpa using others),
      List.filter_cons_of_neg (by simp)]
    exact (List.append_nil _).symm
  · rw [History.includes_concat]
    exact h.includes.trans (List.append_nil _).symm
  · rw [begun, ended]
    intro i hi
    rcases List.mem_append.mp hi with hi | hi
    · exact h.ended_begun i hi
    · have member : i ∈ past.pending := by
        rw [pending]
        exact List.mem_append_right _ hi
      exact (List.mem_filter.mp member).1

/-- A call that succeeds is remembered. -/
theorem step (h : Follows root past b) (does : Does b c reply b') :
    Follows root (past ++ [⟨c, reply⟩]) b' := by
  cases does with
  | @declares c d declares _ _ =>
      cases opens : c.opens with
      | true => exact h.begins d opens
      | false =>
          obtain ⟨ends, plain⟩ := Call.plain_of_declares declares
          have grown : b.graph.size ≤ (b.graph.adopt d).size := by
            rw [Graph.size_adopt]
            exact Nat.le_succ _
          refine h.quiet opens ends rfl rfl grown rfl ?_
          rw [plain]
          exact (List.append_nil _).symm
  | ends opened => exact h.ends opened
  | @writes c f d hc _ =>
      obtain ⟨_, opens, ends, plain⟩ := Call.plain_of_change hc
      refine h.quiet opens ends rfl rfl (Nat.le_of_eq (Graph.size_put ..).symm) rfl ?_
      rw [plain]
      exact (List.append_nil _).symm
  | notes path place => exact h.quiet rfl nofun rfl rfl (Nat.le_refl _) rfl rfl

end Follows

/-- What is remembered after some calls. -/
theorem follows_history (calls : List Call) (hb : Sound b) (h : Follows root past b) :
    Sound (calls.foldl Call.leave b) ∧
      Follows root (past ++ b.history calls) (calls.foldl Call.leave b) := by
  induction calls generalizing past b with
  | nil =>
      rw [history, List.append_nil]
      exact ⟨hb, h⟩
  | cons c calls ih =>
      have sound := (moved_leave hb c).sound hb
      rw [List.foldl_cons, history]
      rcases all_or_nothing hb c with ⟨reply, b', run, does⟩ | ⟨e, run⟩
      · rw [Call.leave, run] at sound ⊢
        rw [List.append_cons]
        exact ih sound (h.step does)
      · rw [Call.leave, run] at sound ⊢
        exact ih sound h

end Follows

/-! ## What calls do to the graph -/

/-- One more declaration stands inside `p`, the last one there. -/
structure Appends (g g' : Graph) (p : Id) : Prop where
  inside : p < g.size
  size : g'.size = g.size + 1
  parent : (g'.node g.size).parent = some p
  older : ∀ i < g.size, g'.node i =
    { g.node i with children := (g.node i).children ++ if i = p then [g.size] else [] }

/-- `f` has been done to the declaration `id`, and nothing else. -/
structure Changes (f : Declaration → Except SchemaError Declaration) (g g' : Graph) (id : Id) :
    Prop where
  inside : id < g.size
  size : g'.size = g.size
  changed : f (g.node id) = .ok (g'.node id)
  others : ∀ i, i ≠ id → g'.node i = g.node i

/-- Declarations stand where they stood, and more may stand behind them. -/
structure Keeps (g g' : Graph) : Prop where
  size : g.size ≤ g'.size
  parent : ∀ i < g.size, (g'.node i).parent = (g.node i).parent
  children : ∀ i < g.size, (g.node i).children <+: (g'.node i).children

theorem Keeps.refl (g : Graph) : Keeps g g :=
  ⟨Nat.le_refl _, fun _ _ => rfl, fun _ _ => List.prefix_rfl⟩

theorem Keeps.trans {f g h : Graph} (first : Keeps f g) (second : Keeps g h) : Keeps f h where
  size := Nat.le_trans first.size second.size
  parent := fun i hi =>
    (second.parent i (Nat.lt_of_lt_of_le hi first.size)).trans (first.parent i hi)
  children := fun i hi =>
    (first.children i hi).trans (second.children i (Nat.lt_of_lt_of_le hi first.size))

variable {b b' : Builder}

theorem Declares.appends {d : Declaration} (hd : Declares b d) :
    Appends b.graph (b.graph.adopt d) b.scope where
  inside := (hd.inside hd.parent).lt
  size := Graph.size_adopt b.graph d
  parent := by
    rw [Graph.node_adopt_self]
    exact hd.parent
  older := fun i hi => by
    rw [Graph.node_adopt_ne hd.toNewborn (Nat.ne_of_lt hi), Graph.nodeBeside, hd.parent]
    by_cases his : i = b.scope
    · rw [if_pos his, if_pos (congrArg some his.symm)]
    · rw [if_neg his, if_neg fun h => his (Option.some.inj h).symm]

theorem Appends.keeps {g g' : Graph} {p : Id} (h : Appends g g' p) : Keeps g g' where
  size := h.size ▸ Nat.le_succ _
  parent := fun i hi => by rw [h.older i hi]
  children := fun i hi => by
    rw [h.older i hi]
    exact List.prefix_append _ _

theorem Moved.keeps (moved : Moved b b') : Keeps b.graph b'.graph := by
  cases moved with
  | stays => exact .refl _
  | declared hd => exact hd.appends.keeps
  | begun hd _ => exact hd.appends.keeps
  | ended _ => exact .refl _
  | @decorated d same =>
      have plain : ∀ i, undecorated ((b.graph.put b.current d).node i)
          = undecorated (b.graph.node i) := Graph.part_put undecorated same
      refine ⟨Nat.le_of_eq (Graph.size_put ..).symm, fun i _ => ?_, fun i _ => ?_⟩
      · have := congrArg Declaration.parent (plain i)
        exact this
      · have children := congrArg Declaration.children (plain i)
        rw [show ((b.graph.put b.current d).node i).children = _ from children]
        exact List.prefix_rfl
  | noted _ => exact .refl _

theorem keeps_leave (calls : List Call) (hb : Sound b) :
    Keeps b.graph (calls.foldl Call.leave b).graph :=
  (leave_induction (P := fun b' => Keeps b.graph b'.graph)
    (fun _ moved kept => kept.trans moved.keeps) calls hb (.refl _)).2

/-! ## What the next call does -/

/-- What comes of a further call, or of the end of the source, after those that
have succeeded so far. -/
structure Accounted (root : Id) (past : History) (b : Builder) : Prop where
  /-- A call that fails changes nothing. -/
  failing : ∀ {c : Call} {e b'}, c.perform b = .error e b' → b' = b
  /-- What is declared stands inside the innermost object, behind all that stands there, and
  whatever calls follow it stays in this place. -/
  declaring : ∀ {c : Call} {reply b'}, c.declares → c.perform b = .ok reply b' →
    reply = some b.graph.size ∧ Appends b.graph b'.graph (past.innermost root) ∧
      ∀ calls : List Call, Keeps b'.graph (calls.foldl Call.leave b').graph
  /-- What is ended is the innermost object. -/
  ending : ∀ {reply b'}, Call.endObject.perform b = .ok reply b' →
    past.pending ≠ [] ∧ reply = some (past.innermost root) ∧ b'.graph = b.graph
  /-- Tags, arities and arguments go to the declaration made or ended last. -/
  writing : ∀ {c : Call} {f reply b'}, c.change? = some f → c.perform b = .ok reply b' →
    Changes f b.graph b'.graph (past.latest root)
  /-- The source may end once all objects have been ended. -/
  finishing : ∀ {includes}, b.finish = .ok includes ↔
    (∀ id ∈ past.begun, id ∈ past.ended) ∧ includes = past.includes

theorem Follows.accounted {root : Id} {past : History} (h : Follows root past b) (hb : Sound b) :
    Accounted root past b := by
  constructor
  · intro c e b' run
    exact (all_or_nothing hb c).of_error run
  · intro c reply b' declares run
    have does := (all_or_nothing hb c).of_ok run
    have sound := does.moved.sound hb
    rw [← h.scope]
    cases does with
    | declares _ hd _ => exact ⟨rfl, hd.appends, fun calls => keeps_leave calls sound⟩
    | ends _ => cases declares
    | writes hc _ =>
        rw [(Call.plain_of_change hc).1] at declares
        cases declares
    | notes _ _ => cases declares
  · intro reply b' run
    cases (all_or_nothing hb .endObject).of_ok run with
    | declares declares _ _ => cases declares
    | @ends id rest opened =>
        refine ⟨?_, ?_, rfl⟩
        · rw [← h.opened, opened]
          simp
        · rw [← h.scope, Builder.scope, opened]
          rfl
    | writes hc _ => cases hc
  · intro c f reply b' hc run
    rw [← h.current]
    cases (all_or_nothing hb c).of_ok run with
    | declares declares _ _ =>
        rw [(Call.plain_of_change hc).1] at declares
        cases declares
    | ends _ => cases hc
    | @writes _ f' d hc' changed =>
        rw [hc] at hc'
        cases hc'
        refine ⟨hb.current_lt, Graph.size_put .., ?_, fun i hi => Graph.node_put_ne hi⟩
        exact changed.trans (congrArg _ (Graph.node_put_self hb.current_lt).symm)
    | notes _ _ => cases hc
  · intro includes
    have closed : (∀ id ∈ past.begun, id ∈ past.ended) ↔ b.opened = [] := by
      rw [← List.reverse_eq_nil_iff, h.opened, History.pending, List.filter_eq_nil_iff]
      simp
    rw [closed, ← h.includes]
    unfold finish
    cases b.opened with
    | nil => simp [eq_comm]
    | cons id rest => simp

/-- A source starts with a root of its own; whatever calls are made then, what
follows is accounted for by those that succeed. -/
theorem accounted_calls {g₀ g : Graph} {root : Id} {location : Location} {isExternal : Bool}
    (built : Built g₀)
    (fresh : Graph.add (.fresh .standard .root none location isExternal) g₀ = .ok root g)
    (features : Features) (calls : List Call) :
    Accounted root ((start g features root isExternal).history calls)
      (calls.foldl Call.leave (start g features root isExternal)) := by
  have sound := Graph.sound_start built.raw built.tree fresh features
  obtain ⟨sound, follows⟩ :=
    follows_history calls sound (follows_start g features root isExternal)
  exact follows.accounted sound

/-- An object inside another one: once both are ended, and a third end has
failed, a tag goes to the outer one. -/
theorem accounted_calls_nested :
    let calls : List Call := [.beginObject "Outer" .standard none .api,
      .beginObject "Inner" .standard none .api, .declaration "value" .standard "int" .api,
      .endObject, .endObject, .endObject]
    let b := start ⟨#[.fresh .standard .root none .api false]⟩ .all 0 false
    Accounted 0 (b.history calls) (calls.foldl Call.leave b) ∧
      (b.history calls).length = 5 ∧ (b.history calls).latest 0 = 1 ∧
      (calls.foldl Call.leave b).finish = .ok [] := by
  intro calls b
  have accounted : Accounted 0 (b.history calls) (calls.foldl Call.leave b) :=
    accounted_calls .empty rfl .all calls
  refine ⟨accounted, by decide +kernel, by decide +kernel, accounted.finishing.mpr ⟨?_, ?_⟩⟩
  · decide +kernel
  · decide +kernel

end Builder

end TypeSchema
