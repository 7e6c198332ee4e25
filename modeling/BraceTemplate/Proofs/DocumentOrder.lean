import BraceTemplate.Proofs.Outline
import Mathlib.Data.List.Induction

/-!
# Trees in document order

A walk through a template meets its texts, references and calls, and the beginning and the end of each
block. The builder of templates moves nodes between the lists of a stack, but to such a walk it only ever
adds: every token puts one item at its end.

* `items_step` — what one token adds to the walk, whatever has been built so far;
* `shows_foldl` — the walk through what was built from a list of tokens, item by item;
* `walk_follows_tokens` — the same for a whole template, whose open blocks are all at its end.
-/

namespace BraceTemplate

/-! ## Walks -/

/-- What a walk through a template meets. -/
inductive Item where
  | text (value : Text)
  | reference (path : Path) (source : Text)
  | call (call : Call) (source : Text)
  | opens (opener : Opener)
  | closes (kind : BlockKind)
deriving DecidableEq, Repr

namespace Item

/-- The kinds of the blocks around what follows an item, from the inside out. -/
def after (around : List BlockKind) : Item → List BlockKind
  | opens o => o.kind :: around
  | closes _ => around.tail
  | _ => around

/-- The kinds of the blocks that items leave open, from the inside out. -/
def openKinds (items : List Item) : List BlockKind :=
  items.foldl after []

end Item

namespace Node

mutual

/-- What a walk through a node meets; the end of a block is met if the block is closed. -/
def items : Node → List Item
  | text value => [.text value]
  | reference p source => [.reference p source]
  | call c source => [.call c source]
  | block o body closed => .opens o :: (allItems body ++ if closed then [.closes o.kind] else [])

/-- What a walk through nodes meets. -/
def allItems : List Node → List Item
  | [] => []
  | n :: rest => items n ++ allItems rest

end

/-- Whether a node is a block without an end. -/
def isOpen : Node → Bool
  | block _ _ closed => !closed
  | _ => false

mutual

/-- Whether the open blocks of a node are at its end: each is the last of its list, and no closed block is
around it. -/
def OpenLast : Node → Prop
  | block _ body closed => AllOpenLast body ∧ (closed = true → allUnclosed body = [])
  | _ => True

/-- Whether the open blocks of nodes are at the end. -/
def AllOpenLast : List Node → Prop
  | [] => True
  | n :: rest => OpenLast n ∧ AllOpenLast rest ∧ (n.isOpen = true → rest = [])

end

theorem allItems_append (xs ys : List Node) : allItems (xs ++ ys) = allItems xs ++ allItems ys := by
  induction xs with
  | nil => rfl
  | cons x xs ih => simp only [List.cons_append, allItems, ih, List.append_assoc]

theorem allItems_singleton (n : Node) : allItems [n] = n.items := by
  simp only [allItems, List.append_nil]

theorem allUnclosed_append (xs ys : List Node) :
    allUnclosed (xs ++ ys) = allUnclosed xs ++ allUnclosed ys := by
  induction xs with
  | nil => rfl
  | cons x xs ih => simp only [List.cons_append, allUnclosed, ih, List.append_assoc]

theorem isOpen_eq_false {n : Node} (h : n.unclosed = []) : n.isOpen = false := by
  cases n with
  | text | reference | call => rfl
  | block o body closed =>
    cases closed with
    | true => rfl
    | false => simp [unclosed] at h

/-- After closed nodes there may be any. -/
theorem AllOpenLast.append {xs ys : List Node} (hx : AllOpenLast xs) (hclosed : allUnclosed xs = [])
    (hy : AllOpenLast ys) : AllOpenLast (xs ++ ys) := by
  induction xs with
  | nil => exact hy
  | cons x xs ih =>
    obtain ⟨hfirst, hrest, -⟩ := hx
    simp only [allUnclosed, List.append_eq_nil_iff] at hclosed
    refine ⟨hfirst, ih hrest hclosed.2, fun hopen => ?_⟩
    rw [isOpen_eq_false hclosed.1] at hopen
    exact absurd hopen Bool.false_ne_true

end Node

/-- The item of a token where the innermost open block is of a kind, or where none is open. A closing tag
that does not fit is text. -/
def Token.item (inner : Option BlockKind) : Token → Item
  | text value _ => .text value
  | tag body _ =>
    match Tag.ofBody body with
    | .cond test => .opens (.cond test)
    | .loop binding iterable => .opens (.loop binding iterable)
    | .close kind => if inner = some kind then .closes kind else .text (tagSource body)
    | .path p => .reference p (tagSource body)
    | .call c => .call c (tagSource body)
    | .plain => .text (tagSource body)

/-! ## What one token adds -/

namespace Template.Partial

/-- What a walk meets before the innermost list of nodes. -/
def itemsBefore : List OpenBlock → List Item
  | [] => []
  | block :: outer =>
    itemsBefore outer ++ (Node.allItems block.earlier.reverse ++ [.opens block.opener])

/-- What a walk through a template under construction meets. -/
def items (b : Partial) : List Item :=
  itemsBefore b.blocks ++ Node.allItems b.nodes.reverse

/-- The kinds of the open blocks, from the inside out. -/
def kinds (b : Partial) : List BlockKind :=
  b.blocks.map fun block => block.opener.kind

/-- Blocks that are left open only end where all ends, so the walk does not meet their ends. -/
theorem allItems_finish (nodes : List Node) (blocks : List OpenBlock) :
    Node.allItems (finish nodes blocks) = itemsBefore blocks ++ Node.allItems nodes.reverse := by
  induction blocks generalizing nodes with
  | nil => rfl
  | cons block outer ih =>
    rw [finish, ih, List.reverse_cons, Node.allItems_append, Node.allItems_singleton]
    simp only [Node.items, itemsBefore, Bool.false_eq_true, if_false, List.append_nil, List.append_assoc,
      List.singleton_append]

theorem items_add (b : Partial) (n : Node) : (b.add n).items = b.items ++ n.items := by
  simp only [add, items, List.reverse_cons, Node.allItems_append, Node.allItems_singleton,
    List.append_assoc]

theorem items_enter (b : Partial) (o : Opener) : (b.enter o).items = b.items ++ [.opens o] := by
  simp only [enter, items, itemsBefore, List.reverse_nil, Node.allItems, List.append_nil,
    List.append_assoc]

/-- A closing tag ends the block that it fits, and is text where it fits none. -/
theorem items_leave (b : Partial) (kind : BlockKind) (source : Text) :
    (b.leave kind source).items =
      b.items ++ [if b.inner? = some kind then .closes kind else .text source] := by
  rcases b with ⟨nodes, _ | ⟨block, outer⟩⟩
  · exact items_add ⟨nodes, []⟩ (.text source)
  · by_cases hkind : block.opener.kind = kind
    · simp [leave, items, inner?, hkind, itemsBefore, Node.allItems_append, Node.allItems_singleton,
        Node.items]
    · have hinner : inner? ⟨nodes, block :: outer⟩ ≠ some kind := by simpa [inner?] using hkind
      have hleave : leave ⟨nodes, block :: outer⟩ kind source =
          add ⟨nodes, block :: outer⟩ (.text source) := if_neg hkind
      rw [hleave, if_neg hinner]
      exact items_add ⟨nodes, block :: outer⟩ (.text source)

/-- Every token adds one item at the end of the walk, and nothing of what was there changes. -/
theorem items_step (b : Partial) (t : Token) : (b.step t).items = b.items ++ [t.item b.inner?] := by
  cases t with
  | text value p => exact items_add b (.text value)
  | tag body p =>
    simp only [step, Token.item]
    rcases Tag.ofBody body with test | ⟨binding, iterable⟩ | kind | path | call | _
    · exact items_enter b _
    · exact items_enter b _
    · exact items_leave b kind _
    · exact items_add b _
    · exact items_add b _
    · exact items_add b _

theorem kinds_leave (b : Partial) (kind : BlockKind) (source : Text) :
    (b.leave kind source).kinds = if b.inner? = some kind then b.kinds.tail else b.kinds := by
  rcases b with ⟨nodes, _ | ⟨block, outer⟩⟩
  · rfl
  · by_cases hkind : block.opener.kind = kind <;> simp [leave, inner?, kinds, add, hkind]

/-- The open blocks follow the items. -/
theorem kinds_step (b : Partial) (t : Token) : (b.step t).kinds = (t.item b.inner?).after b.kinds := by
  cases t with
  | text value p => rfl
  | tag body p =>
    simp only [step, Token.item]
    rcases Tag.ofBody body with test | ⟨binding, iterable⟩ | kind | path | call | _
    · rfl
    · rfl
    · simp only [kinds_leave]
      by_cases hinner : b.inner? = some kind
      · simp only [hinner, if_true, Item.after]
      · simp only [hinner, if_false, Item.after]
    · rfl
    · rfl
    · rfl

/-- The innermost kind is the first. -/
theorem inner?_eq_head? (b : Partial) : b.inner? = b.kinds.head? := by
  rcases b with ⟨nodes, _ | ⟨block, outer⟩⟩ <;> rfl

/-! ## What a run adds -/

/-- A template under construction shows tokens if a walk through it meets one item for each, in their
order, and if the blocks that these leave open are those on the stack. -/
structure Shows (b : Partial) (tokens : List Token) : Prop where
  length_eq : b.items.length = tokens.length
  item_eq : ∀ (i : Nat) (t : Token), tokens[i]? = some t →
    b.items[i]? = some (t.item (Item.openKinds (b.items.take i)).head?)
  kinds_eq : b.kinds = Item.openKinds b.items

theorem shows_empty : Shows .empty [] :=
  ⟨rfl, by simp, rfl⟩

/-- One more token is shown after it was taken in. -/
theorem Shows.step {b : Partial} {tokens : List Token} (h : Shows b tokens) (t : Token) :
    Shows (b.step t) (tokens ++ [t]) := by
  refine ⟨?_, ?_, ?_⟩
  · rw [items_step, List.length_append, List.length_append, h.length_eq]
    rfl
  · intro i t' ht'
    rw [items_step]
    rcases Nat.lt_trichotomy i tokens.length with hlt | heq | hgt
    · -- an earlier item, and what stands before it, are as they were
      rw [List.getElem?_append_left hlt] at ht'
      have hitems : i < b.items.length := by rwa [h.length_eq]
      rw [List.getElem?_append_left hitems, List.take_append_of_le_length (Nat.le_of_lt hitems)]
      exact h.item_eq i t' ht'
    · subst heq
      have hlast : t = t' := by simpa using ht'
      rw [← hlast, ← h.length_eq, List.getElem?_concat_length, List.take_left, ← h.kinds_eq,
        ← inner?_eq_head?]
    · rw [List.getElem?_append_right (Nat.le_of_lt hgt)] at ht'
      have hpos : i - tokens.length ≠ 0 := Nat.sub_ne_zero_of_lt hgt
      rw [List.getElem?_singleton, if_neg hpos] at ht'
      exact absurd ht' (Option.some_ne_none t').symm
  · rw [kinds_step, items_step, h.kinds_eq, Item.openKinds, Item.openKinds, List.foldl_append,
      List.foldl_cons, List.foldl_nil]

theorem shows_foldl (tokens : List Token) : Shows (tokens.foldl step .empty) tokens := by
  induction tokens using List.reverseRecOn with
  | nil => exact shows_empty
  | append_singleton tokens t ih =>
    rw [List.foldl_append]
    exact ih.step t

/-! ## Where open blocks are -/

/-- Nodes without open blocks, at any depth. -/
def Complete (nodes : List Node) : Prop :=
  Node.allUnclosed nodes = [] ∧ Node.AllOpenLast nodes

/-- Whether all nodes but those that hold what follows are complete. -/
structure Settled (b : Partial) : Prop where
  nodes : Complete b.nodes.reverse
  earlier : ∀ block ∈ b.blocks, Complete block.earlier.reverse

theorem complete_nil : Complete [] :=
  ⟨rfl, trivial⟩

theorem Complete.concat {nodes : List Node} (h : Complete nodes) {n : Node} (hclosed : n.unclosed = [])
    (hlast : n.OpenLast) : Complete (nodes ++ [n]) := by
  constructor
  · rw [Node.allUnclosed_append, h.1]
    simp [Node.allUnclosed, hclosed]
  · exact h.2.append h.1 ⟨hlast, trivial, fun _ => rfl⟩

theorem Settled.add {b : Partial} (h : Settled b) {n : Node} (hclosed : n.unclosed = [])
    (hlast : n.OpenLast) : Settled (b.add n) := by
  refine ⟨?_, h.earlier⟩
  show Complete (n :: b.nodes).reverse
  rw [List.reverse_cons]
  exact h.nodes.concat hclosed hlast

theorem Settled.enter {b : Partial} (h : Settled b) (o : Opener) : Settled (b.enter o) :=
  ⟨complete_nil, List.forall_mem_cons.2 ⟨h.nodes, h.earlier⟩⟩

/-- A block that is closed holds complete nodes and is itself complete. -/
theorem Settled.leave {b : Partial} (h : Settled b) (kind : BlockKind) (source : Text) :
    Settled (b.leave kind source) := by
  have htext : Settled (b.add (.text source)) := h.add rfl trivial
  rcases b with ⟨nodes, _ | ⟨block, outer⟩⟩
  · exact htext
  · by_cases hkind : block.opener.kind = kind
    · obtain ⟨hblock, houter⟩ := List.forall_mem_cons.1 h.earlier
      have hsettled : Settled ⟨block.earlier, outer⟩ := ⟨hblock, houter⟩
      have hclosed : (Node.block block.opener nodes.reverse true).unclosed = [] := by
        simp [Node.unclosed, h.nodes.1]
      have hlast : (Node.block block.opener nodes.reverse true).OpenLast :=
        ⟨h.nodes.2, fun _ => h.nodes.1⟩
      have hleave : Partial.leave ⟨nodes, block :: outer⟩ kind source =
          Partial.add ⟨block.earlier, outer⟩ (.block block.opener nodes.reverse true) := if_pos hkind
      rw [hleave]
      exact hsettled.add hclosed hlast
    · have hleave : Partial.leave ⟨nodes, block :: outer⟩ kind source =
          Partial.add ⟨nodes, block :: outer⟩ (.text source) := if_neg hkind
      rw [hleave]
      exact htext

theorem Settled.step {b : Partial} (h : Settled b) (t : Token) : Settled (b.step t) := by
  cases t with
  | text value p => exact h.add rfl trivial
  | tag body p =>
    simp only [Partial.step]
    rcases Tag.ofBody body with test | ⟨binding, iterable⟩ | kind | path | call | _
    · exact h.enter _
    · exact h.enter _
    · exact h.leave kind _
    · exact h.add rfl trivial
    · exact h.add rfl trivial
    · exact h.add rfl trivial

theorem settled_foldl (tokens : List Token) : ∀ b : Partial, Settled b → Settled (tokens.foldl step b) := by
  induction tokens with
  | nil => exact fun b h => h
  | cons t rest ih => exact fun b h => ih (b.step t) (h.step t)

/-- Blocks that are left open are ended last in their lists, and only open blocks are around them. -/
theorem allOpenLast_finish {nodes : List Node} (hnodes : Node.AllOpenLast nodes.reverse)
    {blocks : List OpenBlock} (hearlier : ∀ block ∈ blocks, Complete block.earlier.reverse) :
    Node.AllOpenLast (finish nodes blocks) := by
  induction blocks generalizing nodes with
  | nil => exact hnodes
  | cons block outer ih =>
    obtain ⟨hblock, houter⟩ := List.forall_mem_cons.1 hearlier
    have hopen : Node.OpenLast (.block block.opener nodes.reverse false) :=
      ⟨hnodes, fun hclosed => absurd hclosed Bool.false_ne_true⟩
    refine ih ?_ houter
    rw [List.reverse_cons]
    exact hblock.2.append hblock.1 ⟨hopen, trivial, fun _ => rfl⟩

end Template.Partial

/-! ## Whole templates -/

open Template in
/-- A walk through the template of a list of tokens meets one item for each token, in their order: a text
or a tag that means nothing as its source, a reference or call with its source, an opening tag as the
beginning of a block, and a closing tag as the end of the innermost block that the items before it leave
open, or as its source where it does not fit that one. The open blocks of the template are at its end. -/
theorem walk_follows_tokens (tokens : List Token) :
    (Node.allItems (ofTokens tokens)).length = tokens.length ∧
    (∀ (i : Nat) (t : Token), tokens[i]? = some t →
      (Node.allItems (ofTokens tokens))[i]? =
        some (t.item (Item.openKinds ((Node.allItems (ofTokens tokens)).take i)).head?)) ∧
    Node.AllOpenLast (ofTokens tokens) := by
  have hshows := Partial.shows_foldl tokens
  have hempty : Partial.Settled .empty := ⟨Partial.complete_nil, by simp [Partial.empty]⟩
  have hsettled := Partial.settled_foldl tokens .empty hempty
  have hitems : Node.allItems (ofTokens tokens) = (tokens.foldl Partial.step .empty).items :=
    Partial.allItems_finish _ _
  rw [hitems]
  exact ⟨hshows.length_eq, hshows.item_eq, Partial.allOpenLast_finish hsettled.nodes.2 hsettled.earlier⟩

/-- The closing tag of a loop inside a conditional block is text, and the block stays open. -/
example : Node.allItems (Template.ofSource "a{if b}{c}{endfor}") =
    [.text "a", .opens (.cond (some (.operand (.simple (.path ⟨"b", []⟩))))),
      .reference ⟨"c", []⟩ "{c}", .text "{endfor}"] := by
  decide +kernel

end BraceTemplate
