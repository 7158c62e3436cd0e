import ApiTypes.Proofs.Document.Outline
import ApiTypes.Proofs.Reference.Address
import ApiTypes.Proofs.Reference.Imports

/-!
# Imports and references agree

The output starts with the imports of exactly those documents that a reference
resolved on the way points into, each once and in the order in which they are first
met. A reference into another document is addressed by the slot of that document.

A parameter that is skipped, or whose place a later one takes, is composed and not
written. The documents that only such parameters refer to are imported all the same.
-/

set_option autoImplicit false

namespace ApiTypes.Generator

open Compose

theorem mem_importKeys {options : Options} {entries : Entries} {k : String} :
    k ∈ importKeys options entries ↔
      ∃ r ∈ resolved options entries, Reference.externalKey? r = some k := by
  rw [importKeys, List.mem_eraseDups, keysOf, List.mem_filterMap]

/-- How the imports in front of the paths, the operations and the components of a document agree with
its references. -/
structure ImportsAgree (options : Options) (entries : Entries) (out : Output) (o : Outline) : Prop where
  outlines : Outlines options entries o
  text : out.text = Imports.block (importKeys options entries) ++ o.body options entries
  nodup : (importKeys options entries).Nodup
  key : ∀ r, Reference.externalKey? r = if r.toList.head? = some '#' then none
    else some (Reference.documentKey (Reference.documentName r))
  address : ∀ r ∈ resolved options entries, ∀ k, Reference.externalKey? r = some k →
    k ∈ importKeys options entries ∧
      ∃ rest, Reference.expression "" r = "external[\"" ++ k ++ "\"]" ++ rest
  shown : ∀ r ∈ written options entries, r ∈ resolved options entries ∧
    Within (Reference.expression "" r) (o.body options entries)
  lines : importKeys options entries ≠ [] → Imports.block (importKeys options entries) =
    Text.join "\n" (Imports.lines (importKeys options entries))
  importLines : ∀ i k, (Imports.lines (importKeys options entries)).count (Imports.importLine i k) =
    if (importKeys options entries)[i]? = some k then 1 else 0
  mappingLines : ∀ i k, (Imports.lines (importKeys options entries)).count (Imports.mappingLine i k) =
    if (importKeys options entries)[i]? = some k then 1 else 0
  slot : ∀ r ∈ resolved options entries, ∀ k m, Reference.externalKey? r = some k →
    (Imports.aliasOf ((importKeys options entries).idxOf k) =
      Imports.aliasOf ((importKeys options entries).idxOf m) ↔ k = m)
  shared : ∀ d, ∀ s ∈ Reference.suffixTexts, ∀ t ∈ Reference.suffixTexts, ∀ p q,
    Reference.IsPointer p → Reference.IsPointer q →
      Reference.externalKey? (d ++ s ++ p) = Reference.externalKey? (d ++ t ++ q)
  without : (∀ r ∈ resolved options entries, Reference.externalKey? r = none) →
    out.text = o.body options entries

def referenceNode (ref : String) : Value := .map [(.text "$ref", .text ref)]

def twoImports : Entries :=
  [(.text "paths", .map [(.text "/a", .map [(.text "get", .map
      [(.text "operationId", .text "list"),
        (.text "responses", .map [(.text "200", referenceNode "w.yaml#/R")])])])]),
    (.text "components", .map [(.text "schemas", .map
      [(.text "A", referenceNode "b.json#/x"),
        (.text "B", .map [(.text "items", referenceNode "b.yml")])])])]

def namelessParameter : Entries :=
  [(.text "paths", .map [(.text "/a", .map [(.text "parameters", .list
    [.map [(.text "in", .text "query"), (.text "schema", referenceNode "x.json")]])])])]

def namelessText : String :=
  Imports.block ["x"] ++ (interface "paths" "\"/a\": \x7b\nparameters: \x7b\n\x7d\n\x7d\n" ++ "\n") ++
    (interface "operations" "\n" ++ "\n") ++ interface "components" ""

theorem namelessText_plain : '[' ∉ namelessText.toList := by
  have hblock : '[' ∉ (Imports.block ["x"]).toList := by decide +kernel
  unfold namelessText interface
  simp only [String.toList_append, List.mem_append, not_or]
  simp [hblock]

end ApiTypes.Generator
