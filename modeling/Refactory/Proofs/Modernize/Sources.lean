import Refactory.Proofs.Modernize.Settled

/-! # Sources of imports, all at once

A table is applied entry by entry, and each entry goes over the whole tree again. If no value of the
table is one of its keys, that is one pass in which every import is sent where the table says
(`Stmt.sendImport`, `Stmt.mapImportsIn`): an entry neither makes nor takes away what a later one looks
for, so passes compose (`Stmt.mapImportsIn_comp`) and each entry counts what the tree held at first
(`renameThrough_sends`). Main statement: `renameLegacyImports_simultaneous`. -/

namespace Refactory

/-! ## Imports changed one by one -/

mutual

/-- A statement with the imports in it changed by `φ`, and nothing else. -/
def Stmt.mapImports (φ : Stmt → Stmt) : Stmt → Stmt
  | .importNames names location => φ (.importNames names location)
  | .importFrom module names level location => φ (.importFrom module names level location)
  | .function head body location => .function head (Stmt.mapImportsIn φ body) location
  | .classDef head body location => .classDef head (Stmt.mapImportsIn φ body) location
  | .tryExcept body handlers orelse finalbody location =>
    .tryExcept (Stmt.mapImportsIn φ body) (Handler.mapImportsEach φ handlers)
      (Stmt.mapImportsIn φ orelse) (Stmt.mapImportsIn φ finalbody) location
  | .assign targets value location => .assign targets value location
  | .ret value location => .ret value location
  | .pass location => .pass location
  | .expr value location => .expr value location
  | .captured kind source location => .captured kind source location
  | .foreign kind => .foreign kind

/-- A block with its imports at any depth changed by `φ`. -/
def Stmt.mapImportsIn (φ : Stmt → Stmt) : List Stmt → List Stmt
  | [] => []
  | s :: rest => s.mapImports φ :: Stmt.mapImportsIn φ rest

/-- Handlers with the imports in their bodies changed by `φ`. -/
def Handler.mapImportsEach (φ : Stmt → Stmt) : List Handler → List Handler
  | [] => []
  | .mk type name body :: rest =>
    .mk type name (Stmt.mapImportsIn φ body) :: Handler.mapImportsEach φ rest

end

section

variable {φ ψ : Stmt → Stmt}

theorem Stmt.mapImports_import {s : Stmt} (h : s.isImport = true) : s.mapImports φ = φ s := by
  cases s with
  | importNames names location | importFrom module names level location => rfl
  | _ => cases h

theorem Stmt.mapImports_isImport (hφ : ∀ s : Stmt, (φ s).isImport = s.isImport) (s : Stmt) :
    (s.mapImports φ).isImport = s.isImport := by
  cases s with
  | importNames names location | importFrom module names level location => exact hφ _
  | _ => rfl

theorem Stmt.mapImports_isNode (hφ : ∀ s : Stmt, (φ s).isImport = s.isImport) (s : Stmt) :
    (s.mapImports φ).isNode = s.isNode := by
  cases s with
  | importNames names location | importFrom module names level location =>
    exact Stmt.isImport_isNode (hφ _)
  | _ => rfl

mutual

theorem Stmt.mapImports_nodes (hφ : ∀ s : Stmt, (φ s).isImport = s.isImport) :
    ∀ s : Stmt, (s.mapImports φ).nodes = s.nodes.map (Stmt.mapImports φ)
  | .importNames .. | .importFrom .. => by
    rw [Stmt.mapImports, Stmt.nodes_eq, Stmt.isImport_blocks (hφ _)]
    rfl
  | .function head body location | .classDef head body location => by
    simp only [Stmt.mapImports, Stmt.nodes, List.map_cons, Stmt.mapImportsIn_nodes hφ body]
  | .tryExcept body handlers orelse finalbody location => by
    simp only [Stmt.mapImports, Stmt.nodes, List.map_cons, List.map_append,
      Stmt.mapImportsIn_nodes hφ body, Handler.mapImportsEach_nodes hφ handlers,
      Stmt.mapImportsIn_nodes hφ orelse, Stmt.mapImportsIn_nodes hφ finalbody]
  | .assign .. | .ret .. | .pass _ | .expr .. | .captured .. | .foreign _ => rfl

/-- The statements in a block with changed imports are those of the block, one by one. -/
theorem Stmt.mapImportsIn_nodes (hφ : ∀ s : Stmt, (φ s).isImport = s.isImport) :
    ∀ b : List Stmt, Stmt.nodesIn (Stmt.mapImportsIn φ b) = (Stmt.nodesIn b).map (Stmt.mapImports φ)
  | [] => rfl
  | s :: rest => by
    rw [Stmt.mapImportsIn, Stmt.nodesIn, Stmt.nodesIn, List.map_append, Stmt.mapImports_nodes hφ s,
      Stmt.mapImportsIn_nodes hφ rest]

theorem Handler.mapImportsEach_nodes (hφ : ∀ s : Stmt, (φ s).isImport = s.isImport) :
    ∀ hs : List Handler,
      Handler.nodesIn (Handler.mapImportsEach φ hs) = (Handler.nodesIn hs).map (Stmt.mapImports φ)
  | [] => rfl
  | .mk _ _ body :: rest => by
    rw [Handler.mapImportsEach, Handler.nodesIn, Handler.nodesIn, List.map_append,
      Stmt.mapImportsIn_nodes hφ body, Handler.mapImportsEach_nodes hφ rest]

end

mutual

theorem Stmt.mapImports_comp (hφ : ∀ s : Stmt, (φ s).isImport = s.isImport) :
    ∀ s : Stmt, (s.mapImports φ).mapImports ψ = s.mapImports fun s => ψ (φ s)
  | .importNames .. | .importFrom .. => Stmt.mapImports_import (hφ _)
  | .function head body location | .classDef head body location => by
    simp only [Stmt.mapImports, Stmt.mapImportsIn_comp hφ body]
  | .tryExcept body handlers orelse finalbody location => by
    simp only [Stmt.mapImports, Stmt.mapImportsIn_comp hφ body,
      Handler.mapImportsEach_comp hφ handlers, Stmt.mapImportsIn_comp hφ orelse,
      Stmt.mapImportsIn_comp hφ finalbody]
  | .assign .. | .ret .. | .pass _ | .expr .. | .captured .. | .foreign _ => rfl

/-- Imports changed twice are changed at once. -/
theorem Stmt.mapImportsIn_comp (hφ : ∀ s : Stmt, (φ s).isImport = s.isImport) :
    ∀ b : List Stmt,
      Stmt.mapImportsIn ψ (Stmt.mapImportsIn φ b) = Stmt.mapImportsIn (fun s => ψ (φ s)) b
  | [] => rfl
  | s :: rest => by
    simp only [Stmt.mapImportsIn, Stmt.mapImports_comp hφ s, Stmt.mapImportsIn_comp hφ rest]

theorem Handler.mapImportsEach_comp (hφ : ∀ s : Stmt, (φ s).isImport = s.isImport) :
    ∀ hs : List Handler, Handler.mapImportsEach ψ (Handler.mapImportsEach φ hs) =
      Handler.mapImportsEach (fun s => ψ (φ s)) hs
  | [] => rfl
  | .mk _ _ body :: rest => by
    simp only [Handler.mapImportsEach, Stmt.mapImportsIn_comp hφ body,
      Handler.mapImportsEach_comp hφ rest]

end

end

/-! ## Passes that change imports -/

namespace Replaced

variable {α β : Type}

/-- A pass ends well, leaves `a` and was shown the statements `ss`. -/
structure Makes (r : Replaced α) (a : α) (ss : List Stmt) : Prop where
  now : r.now = a
  fault : r.fault = none
  seen : r.seen = ss

theorem Makes.map {r : Replaced α} {a : α} {ss : List Stmt} (make : α → β) (h : r.Makes a ss) :
    (r.map make).Makes (make a) ss := ⟨congrArg make h.now, h.fault, h.seen⟩

theorem Makes.pair {r : Replaced α} {s : Replaced β} {a : α} {b c : β} {ss ts : List Stmt}
    (h : r.Makes a ss) (h' : s.Makes c ts) : (r.pair b s).Makes (a, c) (ss ++ ts) := by
  unfold Replaced.pair
  rw [h.fault]
  exact ⟨by rw [h.now, h'.now], h'.fault, by rw [h.seen, h'.seen]⟩

theorem Makes.choose {g : Stmt → Option (List Stmt)} {s s' : Stmt} {inside : Replaced Stmt}
    {ss : List Stmt} (h : inside.Makes s' ss) (hs : g s = none) :
    (Replaced.choose (g s) s inside).Makes [s'] (s :: ss) := by
  rw [hs]
  exact ⟨congrArg ([·]) h.now, h.fault, congrArg (s :: ·) h.seen⟩

end Replaced

/-- Every import is replaced by what `φ` makes of it, unless that is the same; nothing else is. -/
structure ReplacesImports (g : Stmt → Option (List Stmt)) (φ : Stmt → Stmt) : Prop where
  other : ∀ s : Stmt, s.isImport = false → g s = none
  changes : ∀ s : Stmt, s.isImport = true → g s = some [φ s] ∨ g s = none ∧ φ s = s

section

variable {g : Stmt → Option (List Stmt)} {φ : Stmt → Stmt}

theorem ReplacesImports.leaf (h : ReplacesImports g φ) {s : Stmt} (hs : s.isImport = true) :
    (Replaced.choose (g s) s { now := s }).Makes [φ s] [s] := by
  rcases h.changes s hs with hg | ⟨hg, hφ⟩
  · rw [hg]
    exact ⟨rfl, rfl, rfl⟩
  · rw [hg, hφ]
    exact ⟨rfl, rfl, rfl⟩

theorem Handler.rebuild_mapImports (hs : List Handler) :
    Handler.rebuild hs (hs.map Handler.type) ((hs.map Handler.body).map (Stmt.mapImportsIn φ)) =
      Handler.mapImportsEach φ hs := by
  induction hs with
  | nil => rfl
  | cons h hs ih =>
    obtain ⟨type, name, body⟩ := h
    rw [List.map_cons, List.map_cons, List.map_cons, Handler.rebuild, ih]
    rfl

mutual

theorem Stmt.replace_makes (hg : ReplacesImports g φ) :
    ∀ s : Stmt, (∀ t ∈ s.nodes, t.isNode = true) → (s.replace g).Makes [s.mapImports φ] s.nodes
  | .function head body location, h => by
    have hbody := Stmt.replaceBlock_makes hg body (List.forall_mem_cons.1 h).2
    exact (hbody.map (Stmt.function head · location)).choose (hg.other _ rfl)
  | .classDef head body location, h => by
    have hbody := Stmt.replaceBlock_makes hg body (List.forall_mem_cons.1 h).2
    exact (hbody.map (Stmt.classDef head · location)).choose (hg.other _ rfl)
  | .tryExcept body handlers orelse finalbody location, h => by
    obtain ⟨-, hblocks⟩ := List.forall_mem_cons.1 h
    rw [List.forall_mem_append, List.forall_mem_append, List.forall_mem_append] at hblocks
    obtain ⟨⟨⟨hbody, hhandlers⟩, horelse⟩, hfinal⟩ := hblocks
    have hall := ((((Stmt.replaceBlock_makes hg body hbody).pair (b := handlers.map Handler.body)
      (Handler.replaceBodies_makes hg handlers hhandlers)).pair (b := orelse)
      (Stmt.replaceBlock_makes hg orelse horelse)).pair (b := finalbody)
      (Stmt.replaceBlock_makes hg finalbody hfinal)).map fun (((body, bodies), orelse), finalbody) =>
        Stmt.tryExcept body (Handler.rebuild handlers (handlers.map Handler.type) bodies) orelse
          finalbody location
    simp only [Handler.rebuild_mapImports] at hall
    exact hall.choose (hg.other _ rfl)
  | .foreign _, h => by cases List.forall_mem_singleton.1 h
  | .importNames .., _ | .importFrom .., _ => hg.leaf rfl
  | .assign .., _ | .ret .., _ | .pass _, _ | .expr .., _ | .captured .., _ =>
    Replaced.Makes.choose ⟨rfl, rfl, rfl⟩ (hg.other _ rfl)

/-- A pass that replaces imports one by one changes them and nothing else, and is shown everything. -/
theorem Stmt.replaceBlock_makes (hg : ReplacesImports g φ) :
    ∀ b : List Stmt, (∀ t ∈ Stmt.nodesIn b, t.isNode = true) →
      (Stmt.replaceBlock g b).Makes (Stmt.mapImportsIn φ b) (Stmt.nodesIn b)
  | [], _ => ⟨rfl, rfl, rfl⟩
  | s :: rest, h => by
    rw [Stmt.nodesIn, List.forall_mem_append] at h
    exact ((Stmt.replace_makes hg s h.1).pair (Stmt.replaceBlock_makes hg rest h.2)).map
      fun (new, rest) => new ++ rest

theorem Handler.replaceBodies_makes (hg : ReplacesImports g φ) :
    ∀ hs : List Handler, (∀ t ∈ Handler.nodesIn hs, t.isNode = true) →
      (Handler.replaceBodies g hs).Makes ((hs.map Handler.body).map (Stmt.mapImportsIn φ))
        (Handler.nodesIn hs)
  | [], _ => ⟨rfl, rfl, rfl⟩
  | .mk _ _ body :: rest, h => by
    rw [Handler.nodesIn, List.forall_mem_append] at h
    exact ((Stmt.replaceBlock_makes hg body h.1).pair (Handler.replaceBodies_makes hg rest h.2)).map
      fun (body, bodies) => body :: bodies

end

end

/-! ## Tables -/

/-- Where a table sends a module: to the value of its entry, or nowhere else. -/
def sentTo (table : List (Text × Text)) (name : Text) : Text := (table.lookup name).getD name

/-- An import with each module that it imports as such sent through a table. -/
def Stmt.sendImport (table : List (Text × Text)) : Stmt → Stmt
  | .importNames names location =>
    .importNames (names.map fun a => { a with name := sentTo table a.name }) location
  | .importFrom module names level location =>
    .importFrom (if level = 0 then module.map (sentTo table) else module) names level location
  | s => s

/-- Whether some statement of a module imports `key` as such. -/
def Module.importsFrom (m : Module) (key : Text) : Bool :=
  (Stmt.nodesIn m.body).any fun s => s.importsOf key != 0

theorem sentTo_of_not_key {table : List (Text × Text)} {name : Text}
    (h : name ∉ table.map (·.1)) : sentTo table name = name := by
  have hnone : table.lookup name = none := by
    rw [List.lookup_eq_none_iff]
    intro e he
    rw [bne_iff_ne]
    exact fun heq => h (heq ▸ List.mem_map_of_mem he)
  rw [sentTo, hnone, Option.getD_none]

theorem sentTo_not_key {table : List (Text × Text)} (h : ∀ e ∈ table, e.2 ∉ table.map (·.1))
    (name : Text) : sentTo table name ∉ table.map (·.1) := by
  rw [sentTo]
  cases hlookup : table.lookup name with
  | some value =>
    obtain ⟨front, back, heq, -⟩ := List.lookup_eq_some_iff.1 hlookup
    exact h (name, value) (by simp [heq])
  | none =>
    rw [Option.getD_none, List.mem_map]
    rintro ⟨e, he, rfl⟩
    simpa using List.lookup_eq_none_iff.1 hlookup e he

theorem sentTo_cons {old new : Text} {rest : List (Text × Text)} (hnew : new ∉ rest.map (·.1))
    (name : Text) :
    sentTo rest (if name = old then new else name) = sentTo ((old, new) :: rest) name := by
  by_cases hname : name = old
  · rw [if_pos hname, sentTo_of_not_key hnew, sentTo, List.lookup_cons, hname, beq_self_eq_true]
    rfl
  · rw [if_neg hname, sentTo, sentTo, List.lookup_cons, beq_false_of_ne hname]

theorem Stmt.sendImport_isImport (table : List (Text × Text)) (s : Stmt) :
    (s.sendImport table).isImport = s.isImport := by
  cases s <;> rfl

theorem Stmt.sendImport_nil (s : Stmt) : s.sendImport [] = s := by
  have hid : sentTo [] = id := rfl
  cases s with
  | importNames names location => simp [Stmt.sendImport, hid]
  | importFrom module names level location => simp [Stmt.sendImport, hid]
  | _ => rfl

/-- Renaming by the first entry and sending through the others is sending through the table, as long as
no other entry takes up where the first one leads. -/
theorem Stmt.sendImport_cons {old new : Text} {rest : List (Text × Text)}
    (hnew : new ∉ rest.map (·.1)) (s : Stmt) :
    (s.renameImport old new).sendImport rest = s.sendImport ((old, new) :: rest) := by
  cases s with
  | importNames names location =>
    simp only [Stmt.renameImport, Stmt.sendImport, List.map_map]
    congr 1
    refine List.map_congr_left fun a _ => ?_
    rw [← sentTo_cons hnew, Function.comp_apply]
    by_cases hname : a.name = old <;> simp [hname]
  | importFrom module names level location =>
    simp only [Stmt.renameImport, Stmt.sendImport]
    congr 1
    by_cases hlevel : level = 0
    · cases module with
      | none => simp
      | some name =>
        rw [if_pos hlevel, if_pos hlevel, Option.map_some, ← sentTo_cons hnew]
        by_cases hname : name = old <;> simp [hlevel, hname]
    · simp [hlevel]
  | _ => rfl

/-- Sending an import away from the keys of a table leaves it no import of a key. -/
theorem Stmt.sendImport_importsOf {table : List (Text × Text)}
    (h : ∀ e ∈ table, e.2 ∉ table.map (·.1)) {key : Text} (hkey : key ∈ table.map (·.1)) (s : Stmt) :
    (s.sendImport table).importsOf key = 0 := by
  have hsent : ∀ name, sentTo table name ≠ key := fun name heq => sentTo_not_key h name (heq ▸ hkey)
  cases s with
  | importNames names location =>
    simp [Stmt.sendImport, Stmt.importsOf, List.countP_eq_zero, hsent]
  | importFrom module names level location =>
    simp only [Stmt.sendImport, Stmt.importsOf, ite_eq_right_iff, Nat.one_ne_zero, imp_false, not_and]
    intro hlevel
    rw [if_pos hlevel]
    cases module with
    | none => simp
    | some name => simpa using hsent name
  | _ => rfl

/-- An import is renamed without a change to imports of other modules. -/
theorem Stmt.renameImport_importsOf_ne {old new key : Text} (hold : key ≠ old) (hnew : key ≠ new)
    (s : Stmt) : (s.renameImport old new).importsOf key = s.importsOf key := by
  cases s with
  | importNames names location =>
    simp only [Stmt.renameImport, Stmt.importsOf, List.countP_map]
    refine List.countP_congr fun a _ => ?_
    by_cases hname : a.name = old <;> simp [hname, hold.symm, hnew.symm]
  | importFrom module names level location =>
    simp only [Stmt.renameImport, Stmt.importsOf]
    by_cases h : level = 0 ∧ module = some old
    · simp [h, hold.symm, hnew.symm]
    · rw [if_neg h]
  | _ => rfl

theorem Stmt.renameImport_self {old new : Text} {s : Stmt} (h : s.importsOf old = 0) :
    s.renameImport old new = s := by
  cases s with
  | importNames names location =>
    rw [Stmt.importsOf, List.countP_eq_zero] at h
    rw [Stmt.renameImport]
    congr 1
    refine (List.map_congr_left fun a ha => ?_).trans (List.map_id' names)
    exact if_neg (by simpa using h a ha)
  | importFrom module names level location =>
    rw [Stmt.importsOf, ite_eq_right_iff] at h
    rw [Stmt.renameImport, if_neg fun hmodule => Nat.one_ne_zero (h hmodule)]
  | _ => rfl

/-! ## Entries one by one -/

/-- An entry changes the imports of its key, and counts them. -/
theorem renameImports_sends {old new : Text} {m : Module}
    (h : ∀ s ∈ Stmt.nodesIn m.body, s.isNode = true) :
    (renameImports old new).perform m =
      (.ok (((Stmt.nodesIn m.body).map (Stmt.importsOf old)).foldr (· + ·) 0),
        ⟨Stmt.mapImportsIn (Stmt.renameImport old new) m.body⟩) := by
  have hg : ReplacesImports
      (fun s => if s.importsOf old = 0 then none else some [s.renameImport old new])
      (Stmt.renameImport old new) := by
    refine ⟨fun s hs => if_pos (Stmt.importsOf_other hs old), fun s _ => ?_⟩
    by_cases hold : s.importsOf old = 0
    · exact .inr ⟨if_pos hold, Stmt.renameImport_self hold⟩
    · exact .inl (if_neg hold)
  have hmakes := Stmt.replaceBlock_makes hg m.body h
  change renameImports old new m = _
  rw [renameImports]
  simp only [Module.replaceStmts, hmakes.fault, hmakes.now, hmakes.seen]

theorem Module.importsFrom_iff {m : Module} {key : Text} :
    m.importsFrom key = false ↔
      ((Stmt.nodesIn m.body).map (Stmt.importsOf key)).foldr (· + ·) 0 = 0 := by
  rw [foldr_add_eq_zero, List.forall_mem_map, Module.importsFrom, List.any_eq_false]
  simp

/-- An entry does not touch what entries with other keys look for. -/
theorem Module.importsFrom_renamed {old new key : Text} (hold : key ≠ old) (hnew : key ≠ new)
    (m : Module) :
    Module.importsFrom ⟨Stmt.mapImportsIn (Stmt.renameImport old new) m.body⟩ key =
      m.importsFrom key := by
  have hsame := Stmt.renameImport_isImport old new
  have hcount : ∀ s : Stmt, (s.mapImports (Stmt.renameImport old new)).importsOf key =
      s.importsOf key := by
    intro s
    cases himport : s.isImport with
    | true => rw [Stmt.mapImports_import himport, Stmt.renameImport_importsOf_ne hold hnew]
    | false =>
      rw [Stmt.importsOf_other himport, Stmt.importsOf_other]
      rw [Stmt.mapImports_isImport hsame, himport]
  rw [Module.importsFrom, Module.importsFrom, Stmt.mapImportsIn_nodes hsame, List.any_map]
  refine congrArg (List.any _) (funext fun s => ?_)
  rw [Function.comp_apply, hcount]

/-- Changes that change no import change nothing. -/
theorem Stmt.mapImportsIn_self {φ : Stmt → Stmt} {b : List Stmt}
    (hφ : ∀ s : Stmt, s.isImport = true → φ s = s)
    (h : ∀ s ∈ Stmt.nodesIn b, s.isNode = true) : Stmt.mapImportsIn φ b = b := by
  have hnone : ReplacesImports (fun _ => none) φ := ⟨fun _ _ => rfl, fun s hs => .inr ⟨rfl, hφ s hs⟩⟩
  rw [← (Stmt.replaceBlock_makes hnone b h).now]
  exact (Stmt.replaceBlock_stays b fun s hs => ⟨rfl, h s hs⟩).now

/-- A table is applied as if all at once, if each key stands in it once and no value is a key. -/
theorem renameThrough_sends {table : List (Text × Text)} {m : Module}
    (hkeys : (table.map (·.1)).Nodup) (hvalues : ∀ e ∈ table, e.2 ∉ table.map (·.1))
    (h : ∀ s ∈ Stmt.nodesIn m.body, s.isNode = true) :
    (renameThrough table).perform m =
      (.ok (table.filter fun e => m.importsFrom e.1),
        ⟨Stmt.mapImportsIn (Stmt.sendImport table) m.body⟩) := by
  induction table generalizing m with
  | nil =>
    rw [Stmt.mapImportsIn_self (fun s _ => s.sendImport_nil) h]
    rfl
  | cons entry rest ih =>
    obtain ⟨old, new⟩ := entry
    rw [List.map_cons, List.nodup_cons] at hkeys
    rw [List.map_cons, List.forall_mem_cons, List.mem_cons, not_or] at hvalues
    obtain ⟨⟨-, hnew⟩, hrest⟩ := hvalues
    have hsame := Stmt.renameImport_isImport old new
    have hmid : ∀ s ∈ Stmt.nodesIn (Stmt.mapImportsIn (Stmt.renameImport old new) m.body),
        s.isNode = true := by
      rw [Stmt.mapImportsIn_nodes hsame, List.forall_mem_map]
      intro s hs
      rw [Stmt.mapImports_isNode hsame, h s hs]
    -- What the other entries do is read off the first tree.
    have hothers := ih (m := ⟨Stmt.mapImportsIn (Stmt.renameImport old new) m.body⟩) hkeys.2
      (fun e he hmem => hrest e he (List.mem_cons_of_mem _ hmem)) hmid
    have hfilter : (rest.filter fun e =>
        Module.importsFrom ⟨Stmt.mapImportsIn (Stmt.renameImport old new) m.body⟩ e.1) =
          rest.filter fun e => m.importsFrom e.1 := by
      refine List.filter_congr fun e he => ?_
      have hkey : e.1 ∈ rest.map (·.1) := List.mem_map_of_mem he
      refine Module.importsFrom_renamed ?_ ?_ m
      · exact fun heq => hkeys.1 (heq ▸ hkey)
      · exact fun heq => hnew (heq ▸ hkey)
    have htree : Stmt.mapImportsIn (Stmt.sendImport rest)
        (Stmt.mapImportsIn (Stmt.renameImport old new) m.body) =
          Stmt.mapImportsIn (Stmt.sendImport ((old, new) :: rest)) m.body := by
      rw [Stmt.mapImportsIn_comp hsame]
      exact congrArg (Stmt.mapImportsIn · m.body) (funext (Stmt.sendImport_cons hnew))
    rw [renameThrough, Edit.perform_bind_ok]
    refine ⟨_, _, renameImports_sends h, ?_⟩
    rw [Edit.perform_bind_ok]
    refine ⟨_, _, hothers, ?_⟩
    rw [Edit.perform_pure, hfilter, htree, List.filter_cons]
    cases hfound : m.importsFrom old with
    | false => rw [if_pos (Module.importsFrom_iff.1 hfound), if_neg Bool.false_ne_true]
    | true =>
      rw [if_neg fun hnone => Bool.false_ne_true ((Module.importsFrom_iff.2 hnone).symm.trans hfound),
        if_pos rfl]

theorem lastWins_fresh {seen : List (Text × Text)} (rest : List (Text × Text))
    (h : ((seen ++ rest).map (·.1)).Nodup) :
    rest.foldl (fun seen (key, value) =>
      if seen.any (·.1 == key) then seen.map fun e => if e.1 = key then (key, value) else e
      else seen ++ [(key, value)]) seen = seen ++ rest := by
  induction rest generalizing seen with
  | nil => exact (List.append_nil seen).symm
  | cons entry rest ih =>
    obtain ⟨key, value⟩ := entry
    have hfresh : seen.any (·.1 == key) = false := by
      rw [List.any_eq_false]
      intro e he heq
      rw [List.map_append, List.nodup_append] at h
      exact h.2.2 e.1 (List.mem_map_of_mem he) key (by simp) (by simpa using heq)
    have hnext : ((seen ++ [(key, value)] ++ rest).map (·.1)).Nodup := by
      rwa [List.append_assoc]
    rw [List.foldl_cons]
    dsimp only
    rw [hfresh, if_neg Bool.false_ne_true, ih hnext, List.append_assoc]
    rfl

/-- A table in which each key stands once is what it is read as. -/
theorem lastWins_nodup {table : List (Text × Text)} (h : (table.map (·.1)).Nodup) :
    lastWins table = table := lastWins_fresh table h

/-- On a module of nodes, a table whose keys are distinct and none of its values, and the table of moved
modules in place of an empty one, is applied as if all at once: each module that is imported as such, at
any depth, is sent to the value of its key, and nothing else changes. The entries that are reported are
those whose key was imported, in the order of the table, and afterwards no key is imported. -/
theorem renameLegacyImports_simultaneous {table : List (Text × Text)} {m : Module}
    (hkeys : (table.map (·.1)).Nodup) (hvalues : ∀ e ∈ table, e.2 ∉ table.map (·.1))
    (h : ∀ s ∈ Stmt.nodesIn m.body, s.isNode = true) :
    let entries := if table.isEmpty then legacyModules else table
    let m' : Module := ⟨Stmt.mapImportsIn (Stmt.sendImport entries) m.body⟩
    (renameLegacyImports table).perform m = (.ok (entries.filter fun e => m.importsFrom e.1), m') ∧
      ∀ s ∈ Stmt.nodesIn m'.body, ∀ key ∈ entries.map (·.1), s.importsOf key = 0 := by
  intro entries m'
  have hentries : (entries.map (·.1)).Nodup ∧ ∀ e ∈ entries, e.2 ∉ entries.map (·.1) := by
    cases hempty : table.isEmpty with
    | true =>
      rw [show entries = legacyModules from if_pos hempty]
      decide +kernel
    | false =>
      rw [show entries = table from if_neg (by simp [hempty])]
      exact ⟨hkeys, hvalues⟩
  have hread : (if table.isEmpty then legacyModules else lastWins table) = entries := by
    rw [lastWins_nodup hkeys]
  have hsame := Stmt.sendImport_isImport entries
  refine ⟨?_, fun s hs key hkey => ?_⟩
  · rw [renameLegacyImports, hread]
    exact renameThrough_sends hentries.1 hentries.2 h
  · rw [Stmt.mapImportsIn_nodes hsame] at hs
    obtain ⟨t, -, rfl⟩ := List.mem_map.1 hs
    cases himport : t.isImport with
    | true =>
      rw [Stmt.mapImports_import himport]
      exact Stmt.sendImport_importsOf hentries.2 hkey t
    | false =>
      refine Stmt.importsOf_other ?_ key
      rw [Stmt.mapImports_isImport hsame, himport]

/-- Two old modules move to one; a relative import and a submodule do not move. -/
theorem renameLegacyImports_simultaneous_sample :
    let table : List (Text × Text) := [("Queue", "queue"), ("StringIO", "io"), ("cStringIO", "io")]
    let m : Module := ⟨[.importNames [⟨"cStringIO", some "s"⟩, ⟨"os", none⟩, ⟨"Queue.x", none⟩] none,
      .function ⟨"f", [], none, [], false⟩ [.importFrom (some "StringIO") [⟨"StringIO", none⟩] 0 none,
        .importFrom (some "Queue") [⟨"Queue", none⟩] 1 none] none]⟩
    (table.map (·.1)).Nodup ∧ (∀ e ∈ table, e.2 ∉ table.map (·.1)) ∧
    (∀ s ∈ Stmt.nodesIn m.body, s.isNode = true) ∧
    (renameLegacyImports table).perform m = (.ok [("StringIO", "io"), ("cStringIO", "io")], ⟨[
      .importNames [⟨"io", some "s"⟩, ⟨"os", none⟩, ⟨"Queue.x", none⟩] none,
      .function ⟨"f", [], none, [], false⟩ [.importFrom (some "io") [⟨"StringIO", none⟩] 0 none,
        .importFrom (some "Queue") [⟨"Queue", none⟩] 1 none] none]⟩) := by
  intro table m
  have hkeys : (table.map (·.1)).Nodup := by decide
  have hvalues : ∀ e ∈ table, e.2 ∉ table.map (·.1) := by decide
  have h : ∀ s ∈ Stmt.nodesIn m.body, s.isNode = true := by decide
  obtain ⟨hperform, -⟩ := renameLegacyImports_simultaneous hkeys hvalues h
  exact ⟨hkeys, hvalues, h, hperform⟩

end Refactory
