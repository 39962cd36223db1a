import Blockbook.Fragment
import Blockbook.Proofs.Json.Members
import Blockbook.Proofs.Template.Nesting

/-!
# Fragments are the blocks of a template

Collecting the blocks of a template threads one list through the tree: a block takes its place
before the blocks inside it and its text after them. Since block names are distinct, the list ends
up with every block once, in the order of the opening statements, and with the text of the nodes in
it.

* `Node.collectAll_eq`: collecting gives the text of the nodes, and adds their blocks in order.
* `Node.isInfix_of_mem_allBlocks`: the text of a block stands in the text around it.
* `extract_ok`: the fragments of a template are its blocks, laid out.
-/

namespace Blockbook

namespace Template

namespace Node

mutual

/-- The blocks in a node, each with the nodes in it, outer ones before inner ones. -/
def blocks : Node → List (Text × List Node)
  | .block name body _ => (name, body) :: allBlocks body
  | _ => []

/-- The blocks in a sequence of nodes, outer ones before inner ones. -/
def allBlocks : List Node → List (Text × List Node)
  | [] => []
  | node :: nodes => blocks node ++ allBlocks nodes

end

/-- A block with its text. -/
def shown (block : Text × List Node) : Text × Text := (block.1, renderAll block.2)

mutual

theorem blockNames_eq (node : Node) : blockNames node = (blocks node).map Prod.fst := by
  match node with
  | .text _ => rfl
  | .output _ _ => rfl
  | .parent _ => rfl
  | .block name body _ => rw [blockNames, allBlockNames_eq body, blocks, List.map_cons]

theorem allBlockNames_eq (nodes : List Node) :
    allBlockNames nodes = (allBlocks nodes).map Prod.fst := by
  match nodes with
  | [] => rfl
  | node :: nodes =>
    rw [allBlockNames, blockNames_eq node, allBlockNames_eq nodes, allBlocks, List.map_append]

end

mutual

theorem blockNames_outline (node : Node) : blockNames node = (outline node).names := by
  match node with
  | .text _ => rfl
  | .output _ _ => rfl
  | .parent _ => rfl
  | .block name body _ => rw [blockNames, allBlockNames_outlines body, outline, Outline.names]

/-- Names do not depend on places. -/
theorem allBlockNames_outlines (nodes : List Node) :
    allBlockNames nodes = Outline.allNames (outlines nodes) := by
  match nodes with
  | [] => rfl
  | node :: nodes =>
    rw [allBlockNames, blockNames_outline node, allBlockNames_outlines nodes, outlines,
      Outline.allNames]

end

/-! ## Collecting -/

mutual

theorem collect_eq (node : Node) {seen : List (Text × Text)}
    (h : (seen.map Prod.fst ++ blockNames node).Nodup) :
    collect seen node = (render node, seen ++ (blocks node).map shown) := by
  match node with
  | .text content => exact congrArg _ (List.append_nil seen).symm
  | .output _ _ => exact congrArg _ (List.append_nil seen).symm
  | .parent _ => exact congrArg _ (List.append_nil seen).symm
  | .block name body span =>
    have hname : name ∉ seen.map Prod.fst := by
      intro hmem
      exact (List.nodup_append.1 h).2.2 name hmem name (by rw [blockNames]; simp) rfl
    have hbody : ((seen ++ [(name, [])]).map Prod.fst ++ allBlockNames body).Nodup := by
      simpa [blockNames] using h
    have hput : Json.putMember name [] seen = seen ++ [(name, [])] :=
      Json.putMember_of_not_mem hname []
    rw [collect, hput, collectAll_eq body hbody]
    simp only [List.append_assoc, List.singleton_append]
    -- The name is not in `seen`, so the text goes to the place taken before the inner blocks.
    rw [Json.putMember_append hname, render, blocks, List.map_cons]
    rfl

/-- Collecting gives the text of the nodes, and adds their blocks in order. -/
theorem collectAll_eq (nodes : List Node) {seen : List (Text × Text)}
    (h : (seen.map Prod.fst ++ allBlockNames nodes).Nodup) :
    collectAll seen nodes = (renderAll nodes, seen ++ (allBlocks nodes).map shown) := by
  match nodes with
  | [] => exact congrArg _ (List.append_nil seen).symm
  | node :: nodes =>
    rw [allBlockNames, ← List.append_assoc] at h
    have hnode := collect_eq node (List.Nodup.of_append_left h)
    have hkeys : (seen ++ (blocks node).map shown).map Prod.fst =
        seen.map Prod.fst ++ blockNames node := by
      rw [List.map_append, List.map_map, blockNames_eq]
      rfl
    rw [← hkeys] at h
    rw [collectAll, hnode]
    simp only [collectAll_eq nodes h]
    rw [renderAll, allBlocks, List.map_append, List.append_assoc]

end

/-! ## Blocks inside blocks -/

mutual

theorem isInfix_of_mem_blocks (node : Node) {block : Text × List Node} (h : block ∈ blocks node) :
    renderAll block.2 <:+: render node := by
  match node with
  | .text _ | .output _ _ | .parent _ => cases h
  | .block name body _ =>
    obtain rfl | h := List.mem_cons.1 h
    · exact List.infix_refl _
    · exact isInfix_of_mem_allBlocks body h

/-- The text of a block stands in the text around it. -/
theorem isInfix_of_mem_allBlocks (nodes : List Node) {block : Text × List Node}
    (h : block ∈ allBlocks nodes) : renderAll block.2 <:+: renderAll nodes := by
  match nodes with
  | [] => cases h
  | node :: nodes =>
    obtain h | h := List.mem_append.1 h
    · exact (isInfix_of_mem_blocks node h).trans (List.prefix_append ..).isInfix
    · exact (isInfix_of_mem_allBlocks nodes h).trans (List.suffix_append ..).isInfix

end

end Node

end Template

open Template

theorem blocks_eq {t : Template} (h : t.blockNames.Nodup) :
    t.blocks = (Node.allBlocks t.nodes).map Node.shown := by
  have hcollect : Node.collectAll [] t.nodes =
      (Node.renderAll t.nodes, [] ++ (Node.allBlocks t.nodes).map Node.shown) :=
    Node.collectAll_eq t.nodes h
  rw [Template.blocks, hcollect, List.nil_append]

theorem parse_of_read {g : Grammar} {key : Template.Key} {source : Text} {t : Template}
    (h : Template.read g key source = .ok t) : parse g source = .ok t.nodes := by
  obtain ⟨nodes, hparse, rfl⟩ := map_eq_ok_iff.1 h
  exact hparse

/-- The fragments of a template are its blocks, laid out. Their names are those of the tokens that
open a block, in order and distinct. The text of a block stands in the text of every block around it
and in the whole text. -/
theorem extract_ok {g : Grammar} {source : Text} {fragments : List Fragment}
    (h : extract g source = .ok fragments) :
    ∃ t ts es, Template.read g ⟨[]⟩ source = .ok t ∧ Token.scan g source = .ok ts ∧
      List.Forall₂ (Token.Means g) ts es ∧
      fragments.map Fragment.name = es.filterMap Event.opened? ∧
      fragments.map Fragment.name = t.blockNames ∧ t.blockNames.Nodup ∧
      fragments = (Node.allBlocks t.nodes).map (fun block =>
        ⟨block.1, Markup.layout (Node.renderAll block.2)⟩) ∧
      ∀ outer ∈ Node.allBlocks t.nodes, Node.renderAll outer.2 <:+: t.render ∧
        ∀ inner ∈ Node.allBlocks outer.2, Node.renderAll inner.2 <:+: Node.renderAll outer.2 := by
  obtain ⟨t, hread, rfl⟩ := map_eq_ok_iff.1 h
  obtain ⟨ts, es, hscan, hmeans, hdenotes⟩ := exists_denotes (parse_of_read hread)
  have hnames : t.blockNames = Outline.allNames (Node.outlines t.nodes) :=
    Node.allBlockNames_outlines t.nodes
  have hnodup : t.blockNames.Nodup := hnames ▸ hdenotes.distinct
  have hblocks : Fragment.ofTemplate t = (Node.allBlocks t.nodes).map (fun block =>
      ⟨block.1, Markup.layout (Node.renderAll block.2)⟩) := by
    rw [Fragment.ofTemplate, blocks_eq hnodup, List.map_map]
    rfl
  have hfirst : (Fragment.ofTemplate t).map Fragment.name = t.blockNames := by
    rw [hblocks, List.map_map, Template.blockNames, Node.allBlockNames_eq]
    rfl
  refine ⟨t, ts, es, hread, hscan, hmeans, ?_, hfirst, hnodup, hblocks, ?_⟩
  · rw [hfirst, hnames, hdenotes.allNames]
  · intro outer houter
    exact ⟨Node.isInfix_of_mem_allBlocks t.nodes houter,
      fun inner hinner => Node.isInfix_of_mem_allBlocks outer.2 hinner⟩

/-- A block with an expression inside another one that calls the parent. -/
theorem extract_ok_nested :
    extract .full ("a\x7b% block a %\x7d<p>\x7b% block b %\x7dx \x7b\x7b y \x7d\x7d" ++
        "\x7b% endblock %\x7d\x7b% parent %\x7d</p>\x7b% endblock a %\x7d").toList =
      .ok [⟨"a", "<p>x \x7b\x7b|PARENT|\x7d\x7d</p>"⟩, ⟨"b", "x"⟩] ∧
    ∃ t, Template.read .full ⟨[]⟩
        ("a\x7b% block a %\x7d<p>\x7b% block b %\x7dx \x7b\x7b y \x7d\x7d" ++
          "\x7b% endblock %\x7d\x7b% parent %\x7d</p>\x7b% endblock a %\x7d").toList = .ok t ∧
      t.blockNames = ["a", "b"] ∧
      ∀ outer ∈ Node.allBlocks t.nodes, ∀ inner ∈ Node.allBlocks outer.2,
        Node.renderAll inner.2 <:+: Node.renderAll outer.2 := by
  have h : extract .full
      ("a\x7b% block a %\x7d<p>\x7b% block b %\x7dx \x7b\x7b y \x7d\x7d" ++
        "\x7b% endblock %\x7d\x7b% parent %\x7d</p>\x7b% endblock a %\x7d").toList =
      .ok [⟨"a", "<p>x \x7b\x7b|PARENT|\x7d\x7d</p>"⟩, ⟨"b", "x"⟩] := by decide +kernel
  obtain ⟨t, -, -, hread, -, -, -, hnames, -, -, hinside⟩ := extract_ok h
  exact ⟨h, t, hread, hnames.symm, fun outer houter => (hinside outer houter).2⟩

end Blockbook
