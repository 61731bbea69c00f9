/-
  MediaGraph.Proofs.Session.Abandonment — what a walk that fails leaves behind.

  A walk fails only where a filter refuses a link: no look-up fails and the walk is
  never too deep. It stops there, with the link refused on top of its stack
  (`Halted`). Whatever it was at below stays as it was marked, whatever was settled
  stays settled, and the rest it never touched. The bottom of the stack ends at the
  sink the walk started from.

  Each call names an instance and a pad, and so one link (`Addresses`): no call was
  made for a link that is not settled, other than the one refused.

  Proved: `failed_walk_leaves_stack`.
-/

import MediaGraph.Proofs.Session.Walk

namespace MediaGraph

open MediaGraph.Action

namespace Session

variable {s t t' : Session} {e : Error} {order stack : List Nat} {i j : Nat} {l : Link}

/-! ## Where a walk stops -/

/-- A link is refused after the calls of `before`: by its source, and its properties stay as they are; or by its
destination, when it has the properties its source left. The calls made for it, newest first, begin with the refusal. -/
inductive Refusal (s : Session) (before : History) (l : Link) : History → LinkProps → Report → Prop
  | output {source : Node} {inputs : List LinkProps} {left : LinkProps} {r : Report} :
      s.graph.nodes[l.src]? = some source →
      source.filter.configOutput before source.serial l.srcPad l.props inputs = (left, .refused r) →
      Refusal s before l [⟨source.serial, .configOutput l.srcPad l.props inputs left (.refused r)⟩] l.props r
  | input {source destination : Node} {inputs : List LinkProps} {left : LinkProps} {r : Report} :
      s.graph.nodes[l.src]? = some source → s.graph.nodes[l.dst]? = some destination →
      source.filter.configOutput before source.serial l.srcPad l.props inputs = (left, .done) →
      destination.filter.configInput (⟨source.serial, .configOutput l.srcPad l.props inputs left .done⟩ :: before)
        destination.serial l.dstPad left = .refused r →
      Refusal s before l [⟨destination.serial, .configInput l.dstPad left (.refused r)⟩,
        ⟨source.serial, .configOutput l.srcPad l.props inputs left .done⟩] left r

/-- A walk from `s` stopped at link `i`, which was refused. -/
structure Halted (s : Session) (i : Nat) (stack order : List Nat) (t : Session) (e : Error) : Prop where
  nodes : t.graph.nodes = s.graph.nodes
  size : t.graph.links.length = s.graph.links.length
  /-- The error is what the last call made was refused with. -/
  refused : ∃ l props r last calls, s.graph.links[i]? = some l ∧
    t.graph.links[i]? = some { l with props, state := .configuring } ∧ Settlings s t.graph order calls ∧
      Refusal s (calls ++ s.history) l last props r ∧ t.history = last ++ calls ++ s.history ∧ e = .reported r
  stacked : ∀ {j l}, j ∈ stack → s.graph.links[j]? = some l → t.graph.links[j]? = some { l with state := .configuring }
  others : ∀ {j}, j ∉ i :: stack → j ∉ order → t.graph.links[j]? = s.graph.links[j]?
  nodup : (i :: stack).Nodup
  path : (i :: stack).IsChain s.graph.Follows

theorem settle_halts (hw : s.graph.Wired) (h : Walking s (i :: stack) order t) (hl : s.graph.links[i]? = some l)
    (hr : (settle i l.src l.srcPad l.dst l.dstPad).run t = (.error e, t')) : Halted s i stack order t' e := by
  obtain ⟨calls, hc, hs⟩ := h.settled
  obtain ⟨his, -⟩ := List.nodup_cons.mp h.nodup
  have hio : i ∉ order := h.not_mem_order List.mem_cons_self
  have hti : t.graph.links[i]? = some { l with state := .configuring } := h.stacked List.mem_cons_self hl
  obtain ⟨source, hsource⟩ : ∃ n, s.graph.nodes[l.src]? = some n := hw.exists_node hl .output
  obtain ⟨destination, hdestination⟩ : ∃ n, s.graph.nodes[l.dst]? = some n := hw.exists_node hl .input
  rw [run_settle, h.nodes, hsource, hti] at hr
  simp only [hdestination] at hr
  rcases hleft : source.filter.configOutput t.history source.serial l.srcPad l.props (t.graph.inputProps source)
    with ⟨left, _ | r⟩
  · rw [hleft] at hr
    simp only at hr
    split at hr
    · rename_i r hanswer
      cases hr
      rw [hc] at hleft
      simp only [note, hc] at hanswer
      have same : ∀ {j}, j ≠ i →
          (t.graph.modifyLink i ({ · with props := left })).links[j]? = t.graph.links[j]? :=
        fun hj => Graph.getElem?_modifyLink_of_ne hj _
      refine ⟨h.nodes, (Graph.length_links_modifyLink ..).trans h.size,
        ⟨l, left, r, _, calls, hl, Graph.getElem?_modifyLink_self hti _, ?settled,
          .input hsource hdestination hleft hanswer, ?history, rfl⟩, ?stacked, ?others, h.nodup, h.path⟩
      case settled =>
        exact hs.congr fun j hj => same (ne_of_mem_of_not_mem hj hio)
      case history =>
        simp only [tell, note, hc, hanswer]
        rfl
      case stacked =>
        exact fun hj hk => (same (ne_of_mem_of_not_mem hj his)).trans (h.stacked (List.mem_cons_of_mem _ hj) hk)
      case others =>
        exact fun hj ho => (same fun e => hj (e ▸ List.mem_cons_self)).trans (h.others hj ho)
    · cases hr
  · rw [hleft] at hr
    cases hr
    rw [hc] at hleft
    refine ⟨h.nodes, h.size, ⟨l, l.props, r, _, calls, hl, hti, hs, .output hsource hleft, ?_, rfl⟩,
      fun hj => h.stacked (List.mem_cons_of_mem _ hj), h.others, h.nodup, h.path⟩
    simp only [tell, note, hc]
    rfl

/-! ## Through the walk -/

/-- Where the action fails on a walk with fewer links left to configure than `bound`, the walk stopped on the way to the
node: on top of its stack, and above a link that ends at the node. -/
def Halts (s : Session) (bound : Nat) (f : Nat → Action Session Unit) : Prop :=
  ∀ (stack order : List Nat) (t t' : Session) (node : Nat) (e : Error), Walking s stack order t →
    t.graph.unconfigured < bound → node < s.graph.nodes.length → s.graph.LeadsToSink node →
    (∀ i ∈ stack.head?, ∃ l, s.graph.links[i]? = some l ∧ l.src = node) → (f node).run t = (.error e, t') →
    ∃ i path order' j l, Halted s i path order' t' e ∧ (j :: stack) <:+ (i :: path) ∧ s.graph.links[j]? = some l ∧
      l.dst = node

theorem configureLink_halts (hw : s.graph.Wired) {bound : Nat} {f : Nat → Action Session Unit} (hv : s.Visits bound f)
    (hf : s.Halts bound f) (h : Walking s stack order t) (hb : t.graph.unconfigured < bound + 1)
    (hl : s.graph.links[i]? = some l) (hsink : s.graph.LeadsToSink l.dst)
    (hhead : ∀ j ∈ stack.head?, ∃ k, s.graph.links[j]? = some k ∧ k.src = l.dst)
    (hr : (configureLink f l.dst i).run t = (.error e, t')) :
    ∃ j path order', Halted s j path order' t' e ∧ (i :: stack) <:+ (j :: path) := by
  obtain ⟨n, hn⟩ : ∃ n, s.graph.nodes[l.dst]? = some n := hw.exists_node hl .input
  -- a link being configured, or configured, is passed over
  have skip : ∀ k : Link, t.graph.links[i]? = some k → k.state = .unconfigured := by
    intro k hk
    rw [configureLink, run_bind_of_run (run_linkAt hk)] at hr
    cases hu : k.state with
    | unconfigured => rfl
    | configured =>
      rw [hu] at hr
      cases hr
    | configuring =>
      rw [hu] at hr
      simp only [run_bind_of_run (h.run_nodeAt hn)] at hr
      cases hr
  have his : i ∉ stack := fun his => by cases skip _ (h.stacked his hl)
  have hio : i ∉ order := by
    intro hio
    obtain ⟨_, props, -, hk⟩ := h.configured hio
    cases skip _ hk
  have hti : t.graph.links[i]? = some l := (h.others his hio).trans hl
  have hu := skip l hti
  rw [configureLink, run_bind_of_run (run_linkAt hti), hu] at hr
  obtain ⟨marked, less, top⟩ := h.goOn hl hu hsink his hio hhead
  have fewer := Nat.lt_of_lt_of_le less (Nat.le_of_lt_succ hb)
  have hsrc := hw.node_lt hl .output
  have hr : (f l.src >>= fun _ => settle i l.src l.srcPad l.dst l.dstPad).run
      { t with graph := t.graph.modifyLink i ({ · with state := .configuring }) } = (.error e, t') := hr
  rcases run_bind_error.mp hr with hr | ⟨_, u, hfu, hr⟩
  · obtain ⟨j, path, order', k, m, hhalt, hsuffix, -⟩ :=
      hf _ _ _ _ _ _ marked fewer hsrc (hsink.of_link hl) top hr
    exact ⟨j, path, order', hhalt, (List.suffix_cons k _).trans hsuffix⟩
  · obtain ⟨order', -, h', -⟩ := (hv _ _ _ _ marked fewer hsrc (hsink.of_link hl) top).ok hfu
    exact ⟨i, stack, order', settle_halts hw h' hl hr, List.suffix_rfl⟩

/-- Some more links were settled, and the walk is at the links it was at. -/
def Walked (s : Session) (stack order : List Nat) (t : Session) : Prop :=
  ∃ order', order <:+ order' ∧ Walking s stack order' t

/-- The inputs of a node, one after the other: those before the one that failed were done. -/
theorem halts_succ (hw : s.graph.Wired) {bound : Nat} {f : Nat → Action Session Unit} (hv : s.Visits bound f)
    (hf : s.Halts bound f) :
    s.Halts (bound + 1) fun node => nodeAt node >>= fun n => n.inputLinks.forM (configureLink f node) := by
  intro stack order t t' node e h hb hnode hsink hhead hr
  have hn : s.graph.nodes[node]? = some s.graph.nodes[node] := List.getElem?_eq_getElem hnode
  simp only [run_bind_of_run (h.run_nodeAt hn)] at hr
  have fewer : ∀ {order' u}, order <:+ order' → Walking s stack order' u → u.graph.unconfigured < bound + 1 :=
    fun hsuffix h' => Nat.lt_of_le_of_lt (h.unconfigured_le h' hsuffix) hb
  have round : ∀ i ∈ s.graph.nodes[node].inputLinks, ∀ u u', Walked s stack order u →
      (configureLink f node i).run u = (.ok (), u') → Walked s stack order u' := by
    rintro i hi u u' ⟨order', hsuffix, h'⟩ hr
    obtain ⟨l, hl, rfl⟩ := (hw.mem_inputLinks_iff hn).mp hi
    obtain ⟨order'', hsuffix', h'', -⟩ :=
      (configureLink_meets hw hv h' (fewer hsuffix h') hl hsink hhead).ok hr
    exact ⟨order'', hsuffix.trans hsuffix', h''⟩
  obtain ⟨i, hi, u, ⟨order', hsuffix, h'⟩, hr⟩ := forM_error_of_mem round ⟨order, List.suffix_rfl, h⟩ hr
  obtain ⟨l, hl, rfl⟩ := (hw.mem_inputLinks_iff hn).mp hi
  obtain ⟨j, path, order'', hhalt, hpath⟩ :=
    configureLink_halts hw hv hf h' (fewer hsuffix h') hl hsink hhead hr
  exact ⟨j, path, order'', i, l, hhalt, hpath, hl, rfl⟩

theorem configureInputs_halts (hw : s.graph.Wired) (depth : Nat) : s.Halts (depth + 1) (configureInputs depth) := by
  induction depth with
  | zero =>
    have visits : s.Visits 0 fun _ => .fail .corrupt := fun _ _ _ _ _ hb => absurd hb (Nat.not_lt_zero _)
    have halts : s.Halts 0 fun _ => .fail .corrupt := fun _ _ _ _ _ _ _ hb => absurd hb (Nat.not_lt_zero _)
    exact halts_succ hw visits halts
  | succ depth ih => exact halts_succ hw (configureInputs_visits hw depth) ih

/-- The bottom of the stack ends at the sink the walk started from. -/
theorem configureSink_halts (hw : s.graph.Wired) {order : List Nat} {node : Nat} {n : Node} (h : Walking s [] order t)
    (hn : s.graph.nodes[node]? = some n) (hr : (configureSink node).run t = (.error e, t')) :
    ∃ i stack order, Halted s i stack order t' e ∧ ∃ j ∈ (i :: stack).getLast?, ∃ l sink, s.graph.links[j]? = some l ∧
      s.graph.nodes[l.dst]? = some sink ∧ sink.isSink = true := by
  rw [configureSink, run_bind_of_run (h.run_nodeAt hn)] at hr
  split at hr
  · rename_i hs
    have hlt := (List.getElem?_eq_some_iff.mp hn).1
    have hsink := Graph.leadsToSink_of_isSink hn hs
    rw [run_bind_of_run (run_read _ t)] at hr
    obtain ⟨i, path, order', j, l, hhalt, ⟨above, hpath⟩, hl, rfl⟩ :=
      configureInputs_halts hw _ _ _ _ _ _ _ h (Nat.lt_succ_self _) hlt hsink nofun hr
    refine ⟨i, path, order', hhalt, j, ?_, l, _, hl, hn, hs⟩
    rw [← hpath, List.getLast?_append]
    rfl
  · cases hr

theorem configureLinks_halts (hw : s.graph.Wired) (hr : configureLinks.run s = (.error e, t)) :
    ∃ i stack order, Halted s i stack order t e ∧ ∃ j ∈ (i :: stack).getLast?, ∃ l sink, s.graph.links[j]? = some l ∧
      s.graph.nodes[l.dst]? = some sink ∧ sink.isSink = true := by
  rw [configureLinks_eq, run_bind_of_run (run_read _ s)] at hr
  have round : ∀ node ∈ List.range s.graph.nodes.length, ∀ u u', Walked s [] [] u →
      (configureSink node).run u = (.ok (), u') → Walked s [] [] u' := by
    rintro node hnode u u' ⟨order, -, h⟩ hr
    have hn := List.getElem?_eq_getElem (List.mem_range.mp hnode)
    obtain ⟨order', -, h', -⟩ := (configureSink_meets hw h hn).ok hr
    exact ⟨order', List.nil_suffix, h'⟩
  obtain ⟨node, hnode, u, ⟨order, -, h⟩, hr⟩ := forM_error_of_mem round ⟨[], List.suffix_rfl, .start s⟩ hr
  exact configureSink_halts hw h (List.getElem?_eq_getElem (List.mem_range.mp hnode)) hr

/-! ## Calls and links -/

/-- A call made for a link: to its source, to configure the output it starts at, or to its destination, to configure the
input it ends at. -/
inductive Addresses (s : Session) (l : Link) : Record → Prop
  | source {n : Node} (given : LinkProps) (inputs : List LinkProps) (left : LinkProps) (answer : Answer) :
      s.graph.nodes[l.src]? = some n →
      Addresses s l ⟨n.serial, .configOutput l.srcPad given inputs left answer⟩
  | destination {n : Node} (given : LinkProps) (answer : Answer) :
      s.graph.nodes[l.dst]? = some n → Addresses s l ⟨n.serial, .configInput l.dstPad given answer⟩

theorem Settlings.addressed {g : Graph} {calls : History} (h : Settlings s g order calls) {r : Record} (hr : r ∈ calls) :
    ∃ i ∈ order, ∃ l, s.graph.links[i]? = some l ∧ s.Addresses l r := by
  induction h with
  | nil => cases hr
  | @cons order calls i l _ _ _ _ _ _ hl hsource hdestination _ _ _ _ ih =>
    rcases List.mem_cons.mp hr with rfl | hr
    · exact ⟨i, List.mem_cons_self, l, hl, .destination _ _ hdestination⟩
    rcases List.mem_cons.mp hr with rfl | hr
    · exact ⟨i, List.mem_cons_self, l, hl, .source _ _ _ _ hsource⟩
    · obtain ⟨j, hj, k, hk, hr⟩ := ih hr
      exact ⟨j, List.mem_cons_of_mem i hj, k, hk, hr⟩

theorem Refusal.addressed {before last : History} {props : LinkProps} {rep : Report}
    (h : Refusal s before l last props rep) {r : Record} (hr : r ∈ last) : s.Addresses l r := by
  cases h with
  | output hsource _ =>
    obtain rfl := List.mem_singleton.mp hr
    exact .source _ _ _ _ hsource
  | input hsource hdestination _ _ =>
    rcases List.mem_cons.mp hr with rfl | hr
    · exact .destination _ _ hdestination
    · obtain rfl := List.mem_singleton.mp hr
      exact .source _ _ _ _ hsource

/-- A call is made for one link only. -/
theorem Addresses.unique (hw : s.graph.Wired) (hn : (s.graph.nodes.map (·.serial)).Nodup) {k : Link} {r : Record}
    (hi : s.graph.links[i]? = some l) (hj : s.graph.links[j]? = some k) (hl : s.Addresses l r) (hk : s.Addresses k r) :
    i = j := by
  have node : ∀ {a b : Nat} {n m : Node}, s.graph.nodes[a]? = some n → s.graph.nodes[b]? = some m →
      n.serial = m.serial → a = b := by
    intro a b n m ha hb he
    have ha' : (s.graph.nodes.map (·.serial))[a]? = some n.serial := by rw [List.getElem?_map, ha]; rfl
    have hb' : (s.graph.nodes.map (·.serial))[b]? = some n.serial := by rw [List.getElem?_map, hb, he]; rfl
    exact (List.getElem?_inj (List.getElem?_eq_some_iff.mp ha').1 hn).mp (ha'.trans hb'.symm)
  cases hl with
  | source given inputs left answer hsource =>
    generalize hrec : (⟨_, .configOutput l.srcPad given inputs left answer⟩ : Record) = r at hk
    cases hk with
    | source _ _ _ _ hsource' =>
      simp only [Record.mk.injEq, Call.configOutput.injEq] at hrec
      obtain ⟨hserial, hpad, -⟩ := hrec
      have hport : l.port .output = k.port .output := by
        rw [Link.port, Link.port, node hsource hsource' hserial, hpad]
      exact hw.port_injective hi hj hport
    | destination => simp at hrec
  | destination given answer hdestination =>
    generalize hrec : (⟨_, .configInput l.dstPad given answer⟩ : Record) = r at hk
    cases hk with
    | source => simp at hrec
    | destination _ _ hdestination' =>
      simp only [Record.mk.injEq, Call.configInput.injEq] at hrec
      obtain ⟨hserial, hpad, -⟩ := hrec
      have hport : l.port .input = k.port .input := by
        rw [Link.port, Link.port, node hdestination hdestination' hserial, hpad]
      exact hw.port_injective hi hj hport

/-! ## A fresh graph -/

theorem Halted.not_mem (h : Halted s i stack order t e) (hj : j ∈ i :: stack) : j ∉ order := by
  intro ho
  obtain ⟨l, props, _, _, _, hl, hti, hs, -, -, -⟩ := h.refused
  obtain ⟨k, props', hk, hkt⟩ := hs.configured ho
  rcases List.mem_cons.mp hj with rfl | hj
  · rw [hl] at hk
    cases hk
    rw [hti] at hkt
    cases hkt
  · rw [h.stacked hj hk] at hkt
    cases hkt

/-- Where all links are to be configured and configuring fails, the links left in progress are a path: at its top the link
that was refused, with the properties its source left if it was the destination that refused it, and at its bottom one
that ends at a sink. The links settled are configured, each by two calls that went well; no other link was changed, and no
call was made for one. -/
theorem failed_walk_leaves_stack (h : s.Reachable) (hu : ∀ l ∈ s.graph.links, l.state = .unconfigured)
    (hr : configureLinks.run s = (.error e, t)) :
    ∃ i stack order calls, Halted s i stack order t e ∧
      (∃ j ∈ (i :: stack).getLast?, ∃ l sink, s.graph.links[j]? = some l ∧ s.graph.nodes[l.dst]? = some sink ∧
        sink.isSink = true) ∧
      t.history = calls ++ s.history ∧
      ∀ j l, s.graph.links[j]? = some l → ∃ k, t.graph.links[j]? = some k ∧
        (k.state = .configuring ↔ j ∈ i :: stack) ∧ (k.state = .configured ↔ j ∈ order) ∧
        (k.state = .unconfigured → k = l) ∧ (j ∉ i :: order → ∀ r ∈ calls, ¬ s.Addresses l r) := by
  obtain ⟨loose, hreach⟩ := h
  have hw : s.graph.Wired := hreach.sound.wired
  have hserials : (s.graph.nodes.map (·.serial)).Nodup := by
    have hall := hreach.sound.numbered.nodup
    rw [List.map_append] at hall
    exact hall.of_append_left
  obtain ⟨i, stack, order, hhalt, hbottom⟩ := configureLinks_halts hw hr
  obtain ⟨l, props, r, last, calls, hl, hti, hs, hrefusal, hhistory, -⟩ := hhalt.refused
  refine ⟨i, stack, order, last ++ calls, hhalt, hbottom, hhistory, fun j k hk => ?_⟩
  have silent : j ∉ i :: order → ∀ r ∈ last ++ calls, ¬ s.Addresses k r := by
    intro hj r hr haddress
    rcases List.mem_append.mp hr with hr | hr
    · obtain rfl := haddress.unique hw hserials hk hl (hrefusal.addressed hr)
      exact hj List.mem_cons_self
    · obtain ⟨m, hm, l', hl', hr⟩ := hs.addressed hr
      obtain rfl := haddress.unique hw hserials hk hl' hr
      exact hj (List.mem_cons_of_mem i hm)
  by_cases hstack : j ∈ i :: stack
  · have hno := hhalt.not_mem hstack
    obtain ⟨k', hk', hstate⟩ : ∃ k', t.graph.links[j]? = some k' ∧ k'.state = .configuring := by
      rcases List.mem_cons.mp hstack with rfl | hj
      · exact ⟨_, hti, rfl⟩
      · exact ⟨_, hhalt.stacked hj hk, rfl⟩
    exact ⟨k', hk', iff_of_true hstate hstack, iff_of_false (by rw [hstate]; nofun) hno, by rw [hstate]; nofun, silent⟩
  by_cases horder : j ∈ order
  · obtain ⟨_, props, -, hk'⟩ := hs.configured horder
    exact ⟨_, hk', iff_of_false nofun hstack, iff_of_true rfl horder, nofun, silent⟩
  · have hstate := hu k (List.mem_of_getElem? hk)
    exact ⟨k, (hhalt.others hstack horder).trans hk, iff_of_false (by rw [hstate]; nofun) hstack,
      iff_of_false (by rw [hstate]; nofun) horder, fun _ => rfl, silent⟩

end Session

/-! ## Stopped behind a cycle -/

namespace Studio

/-- A camera that cannot be configured. -/
def jammed : FilterType where
  name := "jammed"
  outputs := [⟨.output, "default", .video⟩]
  fresh := .custom { configOutput := fun _ _ _ props _ => (props, .refused ⟨.invalidArgument, "jammed"⟩) }

def mixer : FilterType where
  name := "mixer"
  inputs := [⟨.input, "in0", .video⟩, ⟨.input, "in1", .video⟩, ⟨.input, "in2", .video⟩]
  outputs := [⟨.output, "out0", .video⟩, ⟨.output, "out1", .video⟩]
  fresh := .builtin .null

/-- A mixer feeds a screen, and through an overlay one of its own inputs; a camera feeds the one before, a jammed camera
the one after. -/
def stall : Session :=
  after [.openNode mixer none, .openNode camera none, .openNode overlay none, .openNode jammed none,
    .openNode (screen []) none, .addNode 0, .addNode 0, .addNode 0, .addNode 0, .addNode 0,
    .link 0 0 4 0, .link 1 0 0 0, .link 2 0 0 1, .link 0 1 2 0, .link 3 0 0 2]

theorem stall_reachable : stall.Reachable := after_reachable _

end Studio

/-- The jammed camera's link is refused below the loop: the walk stops at it, at both links of the loop and at the screen's
link, with the camera's link settled. -/
theorem Session.stall_abandoned :
    (∀ l ∈ Studio.stall.graph.links, l.state = .unconfigured) ∧
      ∃ e t i stack order, configureLinks.run Studio.stall = (.error e, t) ∧ Halted Studio.stall i stack order t e ∧
        [0, 2, 3, 4] ⊆ i :: stack ∧ 1 ∈ order := by
  have fresh : ∀ l ∈ Studio.stall.graph.links, l.state = .unconfigured := by decide +kernel
  have hfail : configureLinks.failure? Studio.stall = some (.reported ⟨.invalidArgument, "jammed"⟩) := by
    decide +kernel
  have hr := run_eq_of_failure hfail
  obtain ⟨i, stack, order, calls, hhalt, -, -, hlinks⟩ := failed_walk_leaves_stack Studio.stall_reachable fresh hr
  have states : ((configureLinks.run Studio.stall).2.graph.links.map (·.state)) =
      [.configuring, .configured, .configuring, .configuring, .configuring] := by decide +kernel
  have length : Studio.stall.graph.links.length = 5 := by decide +kernel
  have state : ∀ j < 5, ∃ k : Link, (([.configuring, .configured, .configuring, .configuring, .configuring] :
      List LinkState)[j]? = some k.state) ∧ (k.state = .configuring ↔ j ∈ i :: stack) ∧
        (k.state = .configured ↔ j ∈ order) := by
    intro j hj
    obtain ⟨k, hk, hstack, horder, -⟩ := hlinks j _ (List.getElem?_eq_getElem (by rw [length]; exact hj))
    refine ⟨k, ?_, hstack, horder⟩
    rw [← states, List.getElem?_map, hk]
    rfl
  have held : ∀ j ∈ [0, 2, 3, 4], j ∈ i :: stack := by
    intro j hj
    have hj' : j < 5 ∧ ([.configuring, .configured, .configuring, .configuring, .configuring] :
        List LinkState)[j]? = some .configuring := by
      revert j
      decide
    obtain ⟨k, hk, hstack, -⟩ := state j hj'.1
    rw [hj'.2, Option.some.injEq] at hk
    exact hstack.mp hk.symm
  obtain ⟨k, hk, -, horder⟩ := state 1 (by decide)
  exact ⟨fresh, _, _, i, stack, order, hr, hhalt, held, horder.mp (Option.some.inj hk).symm⟩

end MediaGraph
