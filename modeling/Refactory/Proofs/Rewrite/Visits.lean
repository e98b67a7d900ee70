import Refactory.Proofs.Modernize.Total

/-! # The calls of a pass over expressions

A pass over expressions shows each node of a tree to the rewriter once, children first.
`Expr.postorder` lists the nodes of an expression in that order; it is a permutation of what a walk
meets (`Expr.postorder_perm`). What is shown for a node is the node around what has become of its
sub-expressions (`Expr.Turns`), so calls and nodes belong together one by one (`Visit.Runs`), up to the
call that fails, if one does. Main statement: `rewriteExprs_visits`. -/

namespace Refactory

/-! ## Children first -/

theorem Keyword.sizeOf_value {ks : List Keyword} {c : Expr} (h : c ∈ ks.map Keyword.value) :
    sizeOf c < sizeOf ks := by
  obtain ⟨⟨arg, value⟩, hk, rfl⟩ := List.mem_map.1 h
  have hsize := List.sizeOf_lt_of_mem hk
  rw [Keyword.mk.sizeOf_spec] at hsize
  rw [Keyword.value]
  omega

theorem Piece.sizeOf_value? {ps : List Piece} {c : Expr} (h : c ∈ ps.filterMap Piece.value?) :
    sizeOf c < sizeOf ps := by
  obtain ⟨p, hp, hc⟩ := List.mem_filterMap.1 h
  have hsize := List.sizeOf_lt_of_mem hp
  cases p with
  | text value => cases hc
  | field value conversion spec =>
    cases hc
    rw [Piece.field.sizeOf_spec] at hsize
    omega

theorem Expr.sizeOf_key {ks : List (Option Expr)} {c : Expr} (h : c ∈ ks.filterMap id) :
    sizeOf c < sizeOf ks := by
  obtain ⟨k, hk, rfl⟩ := List.mem_filterMap.1 h
  have hsize := List.sizeOf_lt_of_mem hk
  rw [Option.some.sizeOf_spec] at hsize
  omega

theorem Expr.sizeOf_child {c e : Expr} (h : c ∈ e.children) : sizeOf c < sizeOf e := by
  have hlist : ∀ es : List Expr, c ∈ es → sizeOf c < sizeOf es := fun _ => List.sizeOf_lt_of_mem
  have hkeywords : ∀ ks : List Keyword, c ∈ ks.map Keyword.value → sizeOf c < sizeOf ks :=
    fun _ => Keyword.sizeOf_value
  have hkeys : ∀ ks : List (Option Expr), c ∈ ks.filterMap id → sizeOf c < sizeOf ks :=
    fun _ => Expr.sizeOf_key
  have hpieces : ∀ ps : List Piece, c ∈ ps.filterMap Piece.value? → sizeOf c < sizeOf ps :=
    fun _ => Piece.sizeOf_value?
  cases e <;> grind [children]

/-- An expression behind its sub-expressions, each of which stands behind its own. -/
def Expr.postorder (e : Expr) : List Expr :=
  (e.children.attach.flatMap fun c => c.1.postorder) ++ [e]
termination_by sizeOf e
decreasing_by exact Expr.sizeOf_child c.2

theorem Expr.postorder_eq (e : Expr) :
    e.postorder = e.children.flatMap Expr.postorder ++ [e] := by
  rw [Expr.postorder, List.flatMap_subtype fun _ _ => rfl, List.unattach_attach]

/-- Each node of a list directly follows its sub-expressions. -/
def ChildrenFirst (order : List Expr) : Prop :=
  ∀ before n after, order = before ++ n :: after → n.children.flatMap Expr.postorder <:+ before

namespace ChildrenFirst

variable {order order' : List Expr}

theorem append (h : ChildrenFirst order) (h' : ChildrenFirst order') :
    ChildrenFirst (order ++ order') := by
  intro before n after heq
  rcases List.append_eq_append_iff.1 heq with ⟨front, rfl, hfront⟩ | ⟨back, hback, heq⟩
  · exact (h' front n after hfront).trans (List.suffix_append _ _)
  · cases back with
    | nil => exact (h' [] n after heq.symm).trans (List.nil_suffix)
    | cons n' back =>
      cases heq
      exact h before n back hback

theorem flatMap {es : List Expr} (h : ∀ e ∈ es, ChildrenFirst e.postorder) :
    ChildrenFirst (es.flatMap Expr.postorder) := by
  induction es with
  | nil =>
    intro before n after heq
    simp at heq
  | cons e es ih =>
    rw [List.forall_mem_cons] at h
    exact h.1.append (ih h.2)

theorem postorder (e : Expr) : ChildrenFirst e.postorder := by
  induction e using Expr.induct_children with
  | h e ih =>
  intro before n after heq
  rw [Expr.postorder_eq] at heq
  rcases List.append_eq_append_iff.1 heq with ⟨front, rfl, hfront⟩ | ⟨back, hback, heq⟩
  · obtain ⟨rfl, hn⟩ := (List.append_eq_singleton_iff.1 hfront.symm).resolve_right nofun
    cases hn
    exact ⟨[], (List.append_nil _).symm⟩
  · cases back with
    | nil =>
      cases heq
      exact ⟨[], hback.trans (List.append_nil before)⟩
    | cons n' back =>
      cases heq
      exact ChildrenFirst.flatMap ih before n back hback

end ChildrenFirst

/-! ## Nodes that a walk meets -/

theorem Walk.concat_items {es : List Expr} (h : ∀ e ∈ es, e.walk.fault = none) :
    (Walk.concat (es.map Expr.walk)).items = es.flatMap fun e => e.walk.items := by
  induction es with
  | nil => rfl
  | cons e es ih =>
    rw [List.forall_mem_cons] at h
    rw [List.map_cons, Walk.concat, Walk.append_items h.1, ih h.2, List.flatMap_cons]

/-- The entries of a dictionary in turn are its keys and then its values in another order. -/
theorem Walk.interleave_items {keys : List (Option Expr)} {values : List Expr}
    (hlength : keys.length = values.length) (hkeys : ∀ e ∈ keys.filterMap id, e.walk.fault = none)
    (hvalues : ∀ e ∈ values, e.walk.fault = none) :
    (Walk.concat (interleave (keys.map (·.map Expr.walk)) (values.map Expr.walk))).items.Perm
      ((keys.filterMap id ++ values).flatMap fun e => e.walk.items) := by
  induction keys generalizing values with
  | nil =>
    cases List.length_eq_zero_iff.1 hlength.symm
    exact .nil
  | cons key keys ih =>
    obtain ⟨value, values, rfl⟩ := List.exists_cons_of_length_eq_add_one hlength.symm
    rw [List.forall_mem_cons] at hvalues
    have hlength' : keys.length = values.length := Nat.succ.inj hlength
    have hvalue : ∀ keys : List Expr, (value.walk.items ++
        (keys ++ values).flatMap fun e => e.walk.items).Perm
          ((keys ++ value :: values).flatMap fun e => e.walk.items) := by
      intro keys
      rw [List.flatMap_append, List.flatMap_append, List.flatMap_cons, ← List.append_assoc,
        ← List.append_assoc]
      exact List.perm_append_comm.append_right _
    cases key with
    | none =>
      refine .trans ?_ (hvalue _)
      simp only [List.map_cons, Option.map_none, interleave, Walk.concat,
        Walk.append_items hvalues.1]
      exact (ih hlength' hkeys hvalues.2).append_left _
    | some key =>
      have hkeys := List.forall_mem_cons.1 hkeys
      simp only [List.map_cons, Option.map_some, interleave, Walk.concat,
        Walk.append_items hkeys.1, Walk.append_items hvalues.1]
      exact (((ih hlength' hkeys.2 hvalues.2).append_left _).trans (hvalue _)).append_left _

/-- The nodes of a sound expression, children first, are those that a walk meets. -/
theorem Expr.postorder_perm {e : Expr} (h : e.All (·.isSound = true)) :
    e.postorder.Perm e.walk.items := by
  induction e using Expr.induct_children with
  | h e ih =>
  have hfault : ∀ c ∈ e.children, c.walk.fault = none := fun c hc =>
    c.walk_covers.fault.2 fun n hn => h n (.inside hc hn)
  have hinside : (e.children.flatMap Expr.postorder).Perm
      (e.children.flatMap fun c => c.walk.items) :=
    .flatMap_left _ fun c hc => ih c hc fun n hn => h n (.inside hc hn)
  rw [Expr.postorder_eq]
  refine (List.perm_append_singleton e _).trans ?_
  by_cases hdict : ∃ keys values, e = .dict keys values
  · obtain ⟨keys, values, rfl⟩ := hdict
    have hlength : keys.length = values.length := by simpa [Expr.isSound] using h _ .self
    rw [Expr.walk, Expr.walkKeys_eq, Expr.walkEach_eq, entryWalk, List.length_map, List.length_map,
      if_pos hlength]
    refine (hinside.trans (Walk.interleave_items hlength ?_ ?_).symm).cons _
    · exact fun c hc => hfault c (List.mem_append_left _ hc)
    · exact fun c hc => hfault c (List.mem_append_right _ hc)
  · have hforeign : ∀ kind, e ≠ .foreign kind := by
      rintro kind rfl
      cases h _ .self
    rw [Expr.walk_eq (fun keys values heq => hdict ⟨keys, values, heq⟩) hforeign, Walk.cons,
      Walk.concat_items hfault]
    exact hinside.cons _

/-! ## Calls -/

/-- What a pass turns an expression into: a node around what its sub-expressions have been turned into,
or what the rewriter puts in its place. -/
inductive Expr.Turns (f : Rewriter) : Expr → Expr → Prop
  | keep {e node} (h : Expr.Congr (Turns f) e node) (hf : f node = .ok none) : Turns f e node
  | replace {e node new} (h : Expr.Congr (Turns f) e node) (hf : f node = .ok (some new)) :
    Turns f e new

theorem Rewriter.relates_turns (f : Rewriter) : f.Relates (Expr.Turns f) := ⟨.keep, .replace⟩

/-- Whether the rewriter replaces a node. -/
def Rewriter.replaces (f : Rewriter) (node : Expr) : Bool :=
  match f node with
  | .ok (some _) => true
  | _ => false

/-- The rewriter was shown, one after the other, the nodes in `order` around what has become of their
sub-expressions, up to the call that failed, if one did; `count` of them were replaced. -/
structure Calls (f : Rewriter) (order seen : List Expr) (count : Nat) (failed : Option Fault) :
    Prop where
  shows : List.Forall₂ (Expr.Congr (Expr.Turns f)) (order.take seen.length) seen
  all : failed = none → seen.length = order.length
  last : ∀ fault, failed = some fault → ∃ node, seen.getLast? = some node ∧ f node = .error fault
  count : count = seen.countP f.replaces

namespace Calls

variable {f : Rewriter} {order order' seen seen' : List Expr} {count count' : Nat}

theorem nil : Calls f [] [] 0 none := ⟨.nil, fun _ => rfl, nofun, rfl⟩

theorem length_le {failed : Option Fault} (h : Calls f order seen count failed) :
    seen.length ≤ order.length := by
  have hlength := h.shows.length_eq
  rw [List.length_take] at hlength
  omega

theorem shows_all (h : Calls f order seen count none) :
    List.Forall₂ (Expr.Congr (Expr.Turns f)) order seen := by
  have hshows := h.shows
  rwa [h.all rfl, List.take_length] at hshows

/-- After the call that failed there is no other. -/
theorem stop {fault : Fault} (h : Calls f order seen count (some fault)) (order' : List Expr) :
    Calls f (order ++ order') seen count (some fault) where
  shows := by
    rw [List.take_append_of_le_length h.length_le]
    exact h.shows
  all := nofun
  last := h.last
  count := h.count

theorem append {failed : Option Fault} (h : Calls f order seen count none)
    (h' : Calls f order' seen' count' failed) :
    Calls f (order ++ order') (seen ++ seen') (count + count') failed where
  shows := by
    rw [List.length_append, h.all rfl, List.take_length_add_append]
    exact List.rel_append h.shows_all h'.shows
  all hfailed := by rw [List.length_append, List.length_append, h.all rfl, h'.all hfailed]
  last fault hfault := by
    obtain ⟨node, hlast, hnode⟩ := h'.last fault hfault
    exact ⟨node, by rw [List.getLast?_append, hlast, Option.some_or], hnode⟩
  count := by rw [List.countP_append, h.count, h'.count]

/-- One call, which fails or replaces a node or keeps it. -/
theorem one {e node : Expr} {failed : Option Fault} (h : Expr.Congr (Expr.Turns f) e node)
    (hfailed : ∀ fault, failed = some fault → f node = .error fault) :
    Calls f [e] [node] (if f.replaces node then 1 else 0) failed where
  shows := .cons h .nil
  all _ := rfl
  last fault hfault := ⟨node, rfl, hfailed fault hfault⟩
  count := by rw [List.countP_cons, List.countP_nil, Nat.zero_add]

end Calls

namespace Visit

variable {α β : Type}

/-- The fault that a visit ends in, if it fails. -/
def fault (v : Visit α) : Option Fault :=
  match v.result with
  | .error f => some f
  | .ok _ => none

/-- A visit of `a` that calls the rewriter on the nodes in `order`: what it gives satisfies `P`, and as
long as nothing is replaced the part stays as it is. -/
structure Runs (f : Rewriter) (v : Visit α) (a : α) (P : α → Prop) (order : List Expr) : Prop where
  gives : v.Gives P
  calls : Calls f order v.seen v.count v.fault
  keeps : v.count = 0 → v.left = a ∧ ∀ b, v.result = .ok b → b = a

namespace Runs

variable {f : Rewriter} {P : α → Prop} {order order' : List Expr}

theorem keep {a : α} (h : P a) : (Visit.keep a).Runs f a P [] where
  gives := .keep h
  calls := .nil
  keeps _ := ⟨rfl, fun _ hb => (Except.ok.inj hb).symm⟩

theorem map {v : Visit α} {a : α} {make : α → β} {Q : β → Prop} (h : v.Runs f a P order)
    (hmake : ∀ b, P b → Q (make b)) : (v.map make).Runs f (make a) Q order := by
  have hgives := h.gives.map hmake
  obtain ⟨left, result, seen, count⟩ := v
  cases result with
  | error fault => exact ⟨hgives, h.calls, fun hcount => ⟨congrArg make (h.keeps hcount).1, nofun⟩⟩
  | ok b =>
    refine ⟨hgives, h.calls, fun hcount => ?_⟩
    obtain rfl : b = a := (h.keeps hcount).2 b rfl
    exact ⟨rfl, fun c hc => (Except.ok.inj hc).symm⟩

theorem into {v : Visit α} {a : α} (h : v.Runs f a P order) (make : α → β) :
    (v.map make).Runs f (make a) (fun _ => True) order := h.map fun _ _ => trivial

theorem pair {v : Visit α} {w : Visit β} {a : α} {b : β} {Q : β → Prop} (h : v.Runs f a P order)
    (h' : w.Runs f b Q order') :
    (v.pair b w).Runs f (a, b) (fun x => P x.1 ∧ Q x.2) (order ++ order') := by
  have hgives := h.gives.pair (b := b) h'.gives
  obtain ⟨left, result, seen, count⟩ := v
  cases result with
  | error fault =>
    exact ⟨hgives, h.calls.stop order', fun hcount => ⟨congrArg (·, b) (h.keeps hcount).1, nofun⟩⟩
  | ok c =>
    obtain ⟨left', result', seen', count'⟩ := w
    have hcalls := h.calls.append h'.calls
    have hkeeps : count + count' = 0 → c = a ∧ left' = b ∧ ∀ d, result' = .ok d → d = b := by
      intro hcount
      obtain ⟨hcount, hcount'⟩ : count = 0 ∧ count' = 0 := by omega
      exact ⟨(h.keeps hcount).2 c rfl, h'.keeps hcount'⟩
    cases result' with
    | error fault =>
      refine ⟨hgives, hcalls, fun hcount => ?_⟩
      obtain ⟨rfl, rfl, -⟩ := hkeeps hcount
      exact ⟨rfl, nofun⟩
    | ok d =>
      refine ⟨hgives, hcalls, fun hcount => ?_⟩
      obtain ⟨rfl, -, hd⟩ := hkeeps hcount
      obtain rfl := hd d rfl
      exact ⟨rfl, fun x hx => (Except.ok.inj hx).symm⟩

theorem consEach {v : Visit α} {w : Visit (List α)} {a : α} {as : List α} {Q R : List α → Prop}
    (h : v.Runs f a P order) (h' : w.Runs f as Q order')
    (hcons : ∀ a as, P a → Q as → R (a :: as)) :
    (v.consEach as w).Runs f (a :: as) R (order ++ order') :=
  (h.pair h').map fun x hx => hcons x.1 x.2 hx.1 hx.2

theorem consAll {v : Visit α} {w : Visit (List α)} {a : α} {as : List α} {Q R : List α → Prop}
    (h : v.Runs f a P order) (h' : w.Runs f as Q order')
    (hcons : ∀ a as, P a → Q as → R (a :: as)) :
    (v.consAll as w).Runs f (a :: as) R (order ++ order') := by
  have hgives : (v.consAll as w).Gives R := h.gives.consAll h'.gives hcons
  obtain ⟨left, result, seen, count⟩ := v
  cases result with
  | error fault =>
    exact ⟨hgives, h.calls.stop order', fun hcount => ⟨congrArg (· :: as) (h.keeps hcount).1, nofun⟩⟩
  | ok c =>
    obtain ⟨left', result', seen', count'⟩ := w
    have hcalls := h.calls.append h'.calls
    have hkeeps : count + count' = 0 →
        left = a ∧ c = a ∧ left' = as ∧ ∀ d, result' = .ok d → d = as := by
      intro hcount
      obtain ⟨hcount, hcount'⟩ : count = 0 ∧ count' = 0 := by omega
      exact ⟨(h.keeps hcount).1, (h.keeps hcount).2 c rfl, h'.keeps hcount'⟩
    cases result' with
    | error fault =>
      refine ⟨hgives, hcalls, fun hcount => ?_⟩
      obtain ⟨rfl, -, rfl, -⟩ := hkeeps hcount
      exact ⟨rfl, nofun⟩
    | ok d =>
      refine ⟨hgives, hcalls, fun hcount => ?_⟩
      obtain ⟨rfl, rfl, rfl, hd⟩ := hkeeps hcount
      obtain rfl := hd d rfl
      exact ⟨rfl, fun x hx => (Except.ok.inj hx).symm⟩

/-- A visited node is shown behind what is inside it. -/
theorem show_ {v : Visit Expr} {e : Expr} {order : List Expr}
    (h : v.Runs f e (Expr.Congr (Expr.Turns f) e) order) :
    (v.show_ f).Runs f e (Expr.Turns f e) (order ++ [e]) := by
  have hgives := f.relates_turns.show_ h.gives
  obtain ⟨left, result, seen, count⟩ := v
  cases result with
  | error fault =>
    exact ⟨hgives, h.calls.stop [e], fun hcount => ⟨(h.keeps hcount).1, nofun⟩⟩
  | ok node =>
    have hcalls : ∀ failed, (∀ fault, failed = some fault → f node = .error fault) →
        Calls f (order ++ [e]) (seen ++ [node]) (count + if f.replaces node then 1 else 0) failed :=
      fun failed hfailed => h.calls.append (.one (h.gives node rfl) hfailed)
    have hkeeps : count = 0 → node = e := fun hcount => (h.keeps hcount).2 node rfl
    unfold Rewriter.replaces at hcalls
    unfold Visit.show_ at hgives ⊢
    cases hf : f node with
    | error fault =>
      simp only [hf] at hgives hcalls ⊢
      refine ⟨hgives, hcalls _ fun fault' hfault => ?_, fun hcount => ⟨hkeeps hcount, nofun⟩⟩
      cases hfault
      rfl
    | ok replacement =>
      cases replacement with
      | none =>
        simp only [hf] at hgives hcalls ⊢
        refine ⟨hgives, hcalls _ nofun, fun hcount => ⟨hkeeps hcount, fun b hb => ?_⟩⟩
        cases hb
        exact hkeeps hcount
      | some new =>
        simp only [hf] at hgives hcalls ⊢
        exact ⟨hgives, hcalls _ nofun, nofun⟩

/-- A key that is there. -/
theorem present {v : Visit Expr} {e : Expr} (h : v.Runs f e (Expr.Turns f e) order) :
    Visit.Runs f { left := some v.left, result := v.result.map some, seen := v.seen, count := v.count }
      (some e) (Option.Rel (Expr.Turns f) (some e)) order := by
  obtain ⟨left, result, seen, count⟩ := v
  cases result with
  | error fault =>
    exact ⟨nofun, h.calls, fun hcount => ⟨congrArg some (h.keeps hcount).1, nofun⟩⟩
  | ok b =>
    refine ⟨fun c hc => ?_, h.calls, fun hcount => ⟨congrArg some (h.keeps hcount).1, fun c hc => ?_⟩⟩
    · cases hc
      exact .some (h.gives b rfl)
    · cases hc
      exact congrArg some ((h.keeps hcount).2 b rfl)

end Runs

end Visit

open Visit (Runs)

section

variable {f : Rewriter}

/-- The visits of the members of a list. -/
theorem Expr.rewriteAll_runs {es : List Expr}
    (h : ∀ e ∈ es, (e.rewrite f).Runs f e (Expr.Turns f e) e.postorder) :
    (Expr.rewriteAll f es).Runs f es (List.Forall₂ (Expr.Turns f) es)
      (es.flatMap Expr.postorder) := by
  induction es with
  | nil => exact .keep .nil
  | cons e es ih =>
    rw [List.forall_mem_cons] at h
    exact h.1.consAll (ih h.2) fun _ _ => .cons

theorem Expr.rewriteKeys_runs {ks : List (Option Expr)}
    (h : ∀ e ∈ ks.filterMap id, (e.rewrite f).Runs f e (Expr.Turns f e) e.postorder) :
    (Expr.rewriteKeys f ks).Runs f ks (List.Forall₂ (Option.Rel (Expr.Turns f)) ks)
      ((ks.filterMap id).flatMap Expr.postorder) := by
  induction ks with
  | nil => exact .keep .nil
  | cons k ks ih =>
    cases k with
    | none => exact (Runs.keep Option.Rel.none).consAll (ih h) fun _ _ => .cons
    | some e =>
      have h := List.forall_mem_cons.1 h
      exact h.1.present.consAll (ih h.2) fun _ _ => .cons

theorem Keyword.rewriteEach_runs {ks : List Keyword}
    (h : ∀ e ∈ ks.map Keyword.value, (e.rewrite f).Runs f e (Expr.Turns f e) e.postorder) :
    (Keyword.rewriteEach f ks).Runs f ks (List.Forall₂ (Keyword.Congr (Expr.Turns f)) ks)
      ((ks.map Keyword.value).flatMap Expr.postorder) := by
  induction ks with
  | nil => exact .keep .nil
  | cons k ks ih =>
    obtain ⟨arg, value⟩ := k
    have h := List.forall_mem_cons.1 h
    exact (h.1.map fun _ h => Keyword.Congr.mk h).consEach (ih h.2) fun _ _ => .cons

theorem Piece.rewriteEach_runs {ps : List Piece}
    (h : ∀ e ∈ ps.filterMap Piece.value?, (e.rewrite f).Runs f e (Expr.Turns f e) e.postorder) :
    (Piece.rewriteEach f ps).Runs f ps (List.Forall₂ (Piece.Congr (Expr.Turns f)) ps)
      ((ps.filterMap Piece.value?).flatMap Expr.postorder) := by
  induction ps with
  | nil => exact .keep .nil
  | cons p ps ih =>
    cases p with
    | text value => exact (Runs.keep Piece.Congr.text).consEach (ih h) fun _ _ => .cons
    | field value conversion spec =>
      have h := List.forall_mem_cons.1 h
      exact (h.1.map fun _ h => Piece.Congr.field h).consEach (ih h.2) fun _ _ => .cons

/-- The visit of an expression of nodes calls the rewriter on each of them, children first. -/
theorem Expr.rewrite_runs {e : Expr} (h : e.All (·.isNode = true)) :
    (e.rewrite f).Runs f e (Expr.Turns f e) e.postorder := by
  induction e using Expr.induct_children with
  | h e ih =>
  obtain ⟨hnode, hchildren⟩ := Expr.all_iff.1 h
  have ih : ∀ c ∈ e.children, (c.rewrite f).Runs f c (Expr.Turns f c) c.postorder :=
    fun c hc => ih c hc (hchildren c hc)
  have hone : ∀ {c : Expr}, c ∈ e.children →
      (c.rewrite f).Runs f c (Expr.Turns f c) ([c].flatMap Expr.postorder) := by
    intro c hc
    rw [List.flatMap_singleton]
    exact ih c hc
  rw [Expr.postorder_eq]
  cases e with
  | call func args keywords =>
    rw [Expr.children, List.flatMap_append, List.flatMap_cons]
    rw [Expr.children, List.forall_mem_append, List.forall_mem_cons] at ih
    exact (((ih.1.1.pair (Expr.rewriteAll_runs ih.1.2)).pair
      (Keyword.rewriteEach_runs ih.2)).map fun _ h => .call h.1.1 h.1.2 h.2).show_
  | binary left op right =>
    have hpair := (ih left (by simp [children])).pair (hone (c := right) (by simp [children]))
    exact (hpair.map fun _ h => .binary h.1 h.2).show_
  | unary op operand =>
    exact ((hone (by simp [children])).map fun _ h => .unary h).show_
  | logical op values =>
    exact ((Expr.rewriteAll_runs ih).map fun _ h => .logical h).show_
  | compare left ops comparators =>
    rw [Expr.children, List.flatMap_cons]
    rw [Expr.children, List.forall_mem_cons] at ih
    exact ((ih.1.pair (Expr.rewriteAll_runs ih.2)).map fun _ h => .compare h.1 h.2).show_
  | «attribute» value attr =>
    exact ((hone (by simp [children])).map fun _ h => .attribute h).show_
  | subscript value index =>
    have hpair := (ih value (by simp [children])).pair (hone (c := index) (by simp [children]))
    exact (hpair.map fun _ h => .subscript h.1 h.2).show_
  | starred value => exact ((hone (by simp [children])).map fun _ h => .starred h).show_
  | tuple elements => exact ((Expr.rewriteAll_runs ih).map fun _ h => .tuple h).show_
  | list elements => exact ((Expr.rewriteAll_runs ih).map fun _ h => .list h).show_
  | dict keys values =>
    rw [Expr.children, List.flatMap_append]
    rw [Expr.children, List.forall_mem_append] at ih
    exact (((Expr.rewriteKeys_runs ih.1).pair (Expr.rewriteAll_runs ih.2)).map
      fun _ h => .dict h.1 h.2).show_
  | formatted parts => exact ((Piece.rewriteEach_runs ih).map fun _ h => .formatted h).show_
  | foreign kind => cases hnode
  | name id => exact (Runs.keep .name).show_
  | string value => exact (Runs.keep .string).show_
  | number value => exact (Runs.keep .number).show_
  | truth value => exact (Runs.keep .truth).show_
  | noneLiteral => exact (Runs.keep .noneLiteral).show_
  | captured kind source => exact (Runs.keep .captured).show_

/-! ## Statements -/

theorem Expr.rewriteOption_runs {e : Option Expr} (h : ∀ c ∈ e.toList, c.All (·.isNode = true)) :
    (Expr.rewriteOption f e).Runs f e (fun _ => True) (e.toList.flatMap Expr.postorder) := by
  cases e with
  | none => exact .keep trivial
  | some e =>
    rw [Option.toList_some, List.flatMap_singleton]
    exact (Expr.rewrite_runs (h e (by simp))).into some

theorem Expr.rewriteAll_nodes {es : List Expr} (h : ∀ e ∈ es, e.All (·.isNode = true)) :
    (Expr.rewriteAll f es).Runs f es (List.Forall₂ (Expr.Turns f) es)
      (es.flatMap Expr.postorder) :=
  Expr.rewriteAll_runs fun e he => Expr.rewrite_runs (h e he)

theorem Keyword.rewriteEach_nodes {ks : List Keyword}
    (h : ∀ e ∈ ks.map Keyword.value, e.All (·.isNode = true)) :
    (Keyword.rewriteEach f ks).Runs f ks (List.Forall₂ (Keyword.Congr (Expr.Turns f)) ks)
      ((ks.map Keyword.value).flatMap Expr.postorder) :=
  Keyword.rewriteEach_runs fun e he => Expr.rewrite_runs (h e he)

theorem Param.rewriteEach_runs {ps : List Param}
    (h : ∀ c ∈ ps.flatMap Param.exprs, c.All (·.isNode = true)) :
    (Param.rewriteEach f ps).Runs f ps (fun _ => True)
      ((ps.flatMap Param.exprs).flatMap Expr.postorder) := by
  induction ps with
  | nil => exact .keep trivial
  | cons p ps ih =>
    rw [List.flatMap_cons, List.forall_mem_append, Param.exprs, List.forall_mem_append] at h
    rw [List.flatMap_cons, List.flatMap_append, Param.exprs, List.flatMap_append]
    exact (((Expr.rewriteOption_runs h.1.1).pair (Expr.rewriteOption_runs h.1.2)).into _).consEach
      (ih h.2) fun _ _ _ _ => trivial

theorem Handler.rewriteTypes_runs {hs : List Handler}
    (h : ∀ c ∈ hs.filterMap Handler.type, c.All (·.isNode = true)) :
    (Handler.rewriteTypes f hs).Runs f (hs.map Handler.type) (fun _ => True)
      ((hs.filterMap Handler.type).flatMap Expr.postorder) := by
  induction hs with
  | nil => exact .keep trivial
  | cons handler hs ih =>
    obtain ⟨type, name, body⟩ := handler
    rw [List.filterMap_cons] at h ⊢
    cases type with
    | none => exact (Expr.rewriteOption_runs (by simp)).consEach (ih h) fun _ _ _ _ => trivial
    | some e =>
      have h := List.forall_mem_cons.1 h
      have hsome := Expr.rewriteOption_runs (f := f) (e := some e) (by simpa using h.1)
      rw [Option.toList_some, List.flatMap_singleton] at hsome
      exact hsome.consEach (ih h.2) fun _ _ _ _ => trivial

/-- The nodes that a statement holds itself, children first. -/
def Stmt.visits (s : Stmt) : List Expr := s.exprs.flatMap Expr.postorder

mutual

theorem Stmt.rewriteExprs_runs :
    ∀ s : Stmt, (∀ t ∈ s.nodes, t.isNode = true ∧ ∀ e ∈ t.exprs, e.All (·.isNode = true)) →
      (s.rewriteExprs f).Runs f s (fun _ => True) (s.nodes.flatMap Stmt.visits)
  | .function head body location, h => by
    obtain ⟨⟨-, hexprs⟩, hbody⟩ := List.forall_mem_cons.1 h
    rw [Stmt.exprs, List.forall_mem_append, List.forall_mem_append] at hexprs
    rw [Stmt.nodes, List.flatMap_cons, Stmt.visits, Stmt.exprs, List.flatMap_append,
      List.flatMap_append, Stmt.rewriteExprs, FunctionHead.rewrite]
    exact (((((Expr.rewriteAll_nodes hexprs.1.1).pair (Param.rewriteEach_runs hexprs.1.2)).pair
      (Expr.rewriteOption_runs hexprs.2)).into _).pair (Stmt.rewriteBlock_runs body hbody)).into _
  | .classDef head body location, h => by
    obtain ⟨⟨-, hexprs⟩, hbody⟩ := List.forall_mem_cons.1 h
    rw [Stmt.exprs, List.forall_mem_append, List.forall_mem_append] at hexprs
    rw [Stmt.nodes, List.flatMap_cons, Stmt.visits, Stmt.exprs, List.flatMap_append,
      List.flatMap_append, Stmt.rewriteExprs, ClassHead.rewrite]
    exact (((((Expr.rewriteAll_nodes hexprs.1.1).pair (Expr.rewriteAll_nodes hexprs.1.2)).pair
      (Keyword.rewriteEach_nodes hexprs.2)).into _).pair (Stmt.rewriteBlock_runs body hbody)).into _
  | .assign targets value location, h => by
    obtain ⟨-, hexprs⟩ := List.forall_mem_singleton.1 h
    rw [Stmt.exprs, List.forall_mem_append] at hexprs
    rw [Stmt.nodes, List.flatMap_singleton, Stmt.visits, Stmt.exprs, List.flatMap_append,
      List.flatMap_singleton, Stmt.rewriteExprs]
    exact ((Expr.rewriteAll_nodes hexprs.1).pair
      (Expr.rewrite_runs (hexprs.2 value (by simp)))).into _
  | .ret value location, h => by
    rw [Stmt.nodes, List.flatMap_singleton, Stmt.rewriteExprs]
    exact (Expr.rewriteOption_runs (List.forall_mem_singleton.1 h).2).into _
  | .expr value location, h => by
    rw [Stmt.nodes, List.flatMap_singleton, Stmt.visits, Stmt.exprs, List.flatMap_singleton,
      Stmt.rewriteExprs]
    exact (Expr.rewrite_runs ((List.forall_mem_singleton.1 h).2 value (by simp [Stmt.exprs]))).into _
  | .tryExcept body handlers orelse finalbody location, h => by
    obtain ⟨⟨-, hexprs⟩, hblocks⟩ := List.forall_mem_cons.1 h
    rw [List.forall_mem_append, List.forall_mem_append, List.forall_mem_append] at hblocks
    obtain ⟨⟨⟨hbody, hhandlers⟩, horelse⟩, hfinal⟩ := hblocks
    have hparts := (((((Handler.rewriteTypes_runs hexprs).pair
      (Stmt.rewriteBlock_runs body hbody)).pair (Handler.rewriteBodies_runs handlers hhandlers)).pair
      (Stmt.rewriteBlock_runs orelse horelse)).pair (Stmt.rewriteBlock_runs finalbody hfinal)).into
      fun ((((types, body), bodies), orelse), finalbody) =>
        Stmt.tryExcept body (Handler.rebuild handlers types bodies) orelse finalbody location
    simp only [Handler.rebuild_self, List.append_assoc] at hparts
    simp only [Stmt.nodes, List.flatMap_cons, List.flatMap_append, List.append_assoc]
    exact hparts
  | .foreign _, h => by cases (List.forall_mem_singleton.1 h).1
  | .importNames .., _ | .importFrom .., _ | .pass _, _ | .captured .., _ => .keep trivial

/-- A pass over the expressions of a block of nodes calls the rewriter on those of each statement. -/
theorem Stmt.rewriteBlock_runs :
    ∀ b : List Stmt,
      (∀ t ∈ Stmt.nodesIn b, t.isNode = true ∧ ∀ e ∈ t.exprs, e.All (·.isNode = true)) →
        (Stmt.rewriteBlock f b).Runs f b (fun _ => True) ((Stmt.nodesIn b).flatMap Stmt.visits)
  | [], _ => .keep trivial
  | s :: rest, h => by
    rw [Stmt.nodesIn, List.forall_mem_append] at h
    rw [Stmt.nodesIn, List.flatMap_append]
    exact (Stmt.rewriteExprs_runs s h.1).consEach (Stmt.rewriteBlock_runs rest h.2)
      fun _ _ _ _ => trivial

theorem Handler.rewriteBodies_runs :
    ∀ hs : List Handler,
      (∀ t ∈ Handler.nodesIn hs, t.isNode = true ∧ ∀ e ∈ t.exprs, e.All (·.isNode = true)) →
        (Handler.rewriteBodies f hs).Runs f (hs.map Handler.body) (fun _ => True)
          ((Handler.nodesIn hs).flatMap Stmt.visits)
  | [], _ => .keep trivial
  | .mk _ _ body :: rest, h => by
    rw [Handler.nodesIn, List.forall_mem_append] at h
    rw [Handler.nodesIn, List.flatMap_append]
    exact (Stmt.rewriteBlock_runs body h.1).consEach (Handler.rewriteBodies_runs rest h.2)
      fun _ _ _ _ => trivial

end

end

theorem Expr.All.isNode {e : Expr} (h : e.All (·.isSound = true)) : e.All (·.isNode = true) := by
  refine h.mono fun n hn => ?_
  cases n <;> first | rfl | cases hn

theorem Stmt.Sound.visits_perm {s : Stmt} (h : s.Sound) :
    ∃ exprs, s.walkExprs.all = .ok exprs ∧ s.visits.Perm exprs := by
  obtain ⟨exprs, hall⟩ := Stmt.walkExprs_of_sound h.exprs
  refine ⟨exprs, hall, ?_⟩
  obtain ⟨-, rfl⟩ := Walk.all_ok.1 hall
  rw [Stmt.walkExprs, Walk.concat_items fun e he => e.walk_covers.fault.2 (h.exprs e he)]
  exact .flatMap_left _ fun e he => Expr.postorder_perm (h.exprs e he)

/-- On a valid module, a pass over expressions goes from statement to statement and calls the rewriter
once for each node that a walk over the statement's expressions meets, behind the calls for its
sub-expressions and on the node around what they have been turned into: nothing that the rewriter puts
in is visited. If a call fails it is the last, and otherwise the pass succeeds. It counts the calls that
replace a node; without one the module stays as it is. -/
theorem rewriteExprs_visits (f : Rewriter) {m : Module} {allowEmpty : Bool}
    (h : m.validate allowEmpty = .ok ()) :
    m.walk.fault = none ∧
    (∀ i ∈ m.walk.items, ChildrenFirst i.2.visits ∧
      ∃ exprs, i.2.walkExprs.all = .ok exprs ∧ i.2.visits.Perm exprs) ∧
    List.Forall₂ (Expr.Congr (Expr.Turns f))
      ((m.walk.items.flatMap fun i => i.2.visits).take (m.rewriteExprs f).seen.length)
      (m.rewriteExprs f).seen ∧
    (∀ count m', (rewriteExprs f).perform m = (.ok count, m') →
      (m.rewriteExprs f).seen.length = (m.walk.items.flatMap fun i => i.2.visits).length ∧
      List.Forall₂ (Stmt.Congr (Expr.Turns f)) (Stmt.nodesIn m.body) (Stmt.nodesIn m'.body) ∧
      count = (m.rewriteExprs f).seen.countP f.replaces) ∧
    (∀ fault m', (rewriteExprs f).perform m = (.error fault, m') →
      ∃ node, (m.rewriteExprs f).seen.getLast? = some node ∧ f node = .error fault) ∧
    ((m.rewriteExprs f).seen.countP f.replaces = 0 → ((rewriteExprs f).perform m).2 = m) := by
  have hsound : m.Sound := (Module.validate_ok.1 h).2
  have hfault : m.walk.fault = none := Module.walk_fault fun s hs => (hsound s hs).isNode
  have hitems : (m.walk.items.flatMap fun i => i.2.visits) =
      (Stmt.nodesIn m.body).flatMap Stmt.visits := by
    rw [← Module.walk_items hfault, List.flatMap_map]
  have hruns : (m.rewriteExprs f).Runs f m.body (fun _ => True)
      ((Stmt.nodesIn m.body).flatMap Stmt.visits) :=
    Stmt.rewriteBlock_runs m.body fun s hs => ⟨(hsound s hs).isNode, fun e he =>
      Expr.All.isNode ((hsound s hs).exprs e he)⟩
  rw [hitems]
  refine ⟨hfault, fun i hi => ⟨.flatMap fun e _ => .postorder e, ?_⟩, hruns.calls.shows,
    fun count m' hrun => ?_, fun fault m' hrun => ?_, fun hnone => ?_⟩
  · exact (hsound i.2 (Module.walk_items hfault ▸ List.mem_map_of_mem hi)).visits_perm
  · obtain ⟨hresult, rfl⟩ := rewriteExprs_ok hrun
    have hnofault : (m.rewriteExprs f).fault = none := by rw [Visit.fault, hresult]
    refine ⟨hruns.calls.all hnofault, ?_, hruns.calls.count⟩
    exact Stmt.rewriteBlock_congr f.relates_turns m.body m'.body hresult
  · refine hruns.calls.last fault ?_
    have hfailed : (m.rewriteExprs f).result.map (fun _ => (m.rewriteExprs f).count) = .error fault :=
      (Prod.mk.inj hrun).1
    rw [Visit.fault]
    cases hresult : (m.rewriteExprs f).result with
    | ok b => simp [hresult, Except.map] at hfailed
    | error fault' =>
      simp only [hresult, Except.map, Except.error.injEq] at hfailed
      rw [hfailed]
  · obtain ⟨hleft, hresult⟩ := hruns.keeps (hruns.calls.count.trans hnone)
    refine congrArg Module.mk ?_
    unfold Visit.now
    cases hgiven : (m.rewriteExprs f).result with
    | ok b => exact hresult b hgiven
    | error fault => exact hleft

/-- Names become calls, in a dictionary with an entry that has no key and in the type of a handler. -/
theorem rewriteExprs_visits_sample :
    let f : Rewriter
      | .name id => .ok (some (.call (.name id) [] []))
      | _ => .ok none
    let call (id : Text) : Expr := .call (.name id) [] []
    let m : Module := ⟨[.assign [.name "d"] (.dict [some (.name "k"), none] [.name "v", .name "w"]) none,
      .tryExcept [.pass none] [⟨some (.attribute (.name "e") "E"), none, [.pass none]⟩] [] [] none]⟩
    m.validate false = .ok () ∧
    (rewriteExprs f).perform m = (.ok 5, ⟨[
      .assign [call "d"] (.dict [some (call "k"), none] [call "v", call "w"]) none,
      .tryExcept [.pass none] [⟨some (.attribute (call "e") "E"), none, [.pass none]⟩] [] [] none]⟩) ∧
    (m.rewriteExprs f).seen = [.name "d", .name "k", .name "v", .name "w",
      .dict [some (call "k"), none] [call "v", call "w"], .name "e", .attribute (call "e") "E"] ∧
    (m.walk.items.flatMap fun i => i.2.visits).length = 7 ∧
    List.Forall₂ (Expr.Congr (Expr.Turns f)) (m.walk.items.flatMap fun i => i.2.visits)
      (m.rewriteExprs f).seen := by
  intro f call m
  have h : m.validate false = .ok () := rfl
  obtain ⟨-, -, hshows, hdone, -, -⟩ := rewriteExprs_visits f h
  obtain ⟨hlength, -, -⟩ := hdone _ _ rfl
  refine ⟨h, rfl, rfl, hlength.symm, ?_⟩
  rwa [List.take_of_length_le (Nat.le_of_eq hlength.symm)] at hshows

end Refactory
