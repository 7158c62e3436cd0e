import ApiTypes.Proofs.Document.Assembly
import ApiTypes.Proofs.Reference.Address
import ApiTypes.Proofs.Type.Level

/-!
# Where names stand, and which of them are read back

Properties, components, parameters and their locations, content types, paths and
operations are keys between double quotes, and so are the segments of a reference
behind its first. A name is put there as it is. It is read back if and only if it
holds no double quote, no backslash and no line break.
-/

set_option autoImplicit false

namespace ApiTypes

open Compose TypeText

/-- A name that stands in a text as a key: between double quotes, behind what is read to its end, and
in front of the mark that ends a key. The reader gets it back if it can stand there, and else not. -/
structure StandsIn (name : List Char) (text : String) : Prop where
  parts : ∃ before after words mark, text.toList = before ++ (quotedName name ++ mark :: after) ∧
    mark ∈ [':', '?', ']'] ∧ Scan.start.run before = some ⟨.between, words⟩ ∧
      (Scan.start.run (before ++ quotedName name) = some ⟨.between, words ++ [.quoted '"' name]⟩ ↔
        Quotable name)

variable {ctx : Context}

/-- The composers that write a key, with the key and the text that they come to. -/
inductive WritesKey (ctx : Context) : Scalar → String → Prop
  | property {root : String} {p : Property} {s : Schema} {rest : List (Property × Schema)}
    {text : String} (h : (Schema.composeFields root ((p, s) :: rest)).result = .ok text) :
    WritesKey ctx p.name text
  | parameter {name : Scalar} {f : ParameterField} {text : String} (h : f.render name = .ok text) :
    WritesKey ctx name text
  | location {location : Scalar} {fields : List (Scalar × ParameterField)} {text : String}
    (h : ParameterGroups.renderGroup location fields = .ok text) : WritesKey ctx location text
  | mediaType {name : Scalar} {media : Value} {text : String}
    (h : (Operation.mediaType ctx name media).result = .ok text) : WritesKey ctx name text
  | path {p : Scalar × Entries} {text : String} (h : (Paths.entry ctx p).result = .ok text) :
    WritesKey ctx p.1 text
  | operation {id : Scalar} {operation : Value} {text : String}
    (h : (Generator.declaredOperation ctx id operation).result = .ok text) : WritesKey ctx id text
  | operationName {method : String} {operation : Entries} {id : Scalar} {text : String}
    (hm : method ∈ Paths.methods) (hid : Paths.id? operation = some id)
    (h : (Paths.operation ctx method operation).result = .ok text) : WritesKey ctx id text
  | content {name : Scalar} {entries : Entries} {text : String}
    (h : (Generator.namedContent ctx name (.map entries)).result = .ok text) :
    WritesKey ctx name text

theorem standsIn_of_run {name before after : List Char} {words : List Token} {mark : Char}
    {text : String} (h : text.toList = before ++ (quotedName name ++ mark :: after))
    (hmark : mark ∈ [':', '?', ']']) (hrun : Scan.start.run before = some ⟨.between, words⟩) :
    StandsIn name text := by
  refine ⟨before, after, words, mark, h, hmark, hrun, ?_⟩
  rw [Scan.run_append, hrun, Option.bind_some, run_quotedName_iff]

theorem standsIn_of_comment {description : Value} {comment name text : String}
    (hc : DocComment.ofValue description = .ok comment) (mark : Char) (rest : String)
    (hmark : mark ∈ [':', '?', ']'])
    (h : text = comment ++ ("\"" ++ name ++ "\"" ++ (mark.toString ++ rest))) :
    StandsIn name.toList text := by
  have htext : text.toList = comment.toList ++ (quotedName name.toList ++ mark :: rest.toList) := by
    rw [h]
    simp [quotedName]
  exact standsIn_of_run htext hmark (closes_description hc [])

theorem standsIn_of_noComment {name text : String} (mark : Char) (rest : String)
    (hmark : mark ∈ [':', '?', ']']) (h : text = "\"" ++ name ++ "\"" ++ (mark.toString ++ rest)) :
    StandsIn name.toList text := by
  have hnone : DocComment.ofValue .null = .ok "" := rfl
  exact standsIn_of_comment hnone mark rest hmark (h.trans String.empty_append.symm)

theorem fieldHead_mark (name : String) (required : Bool) : ∃ (mark : Char) (rest : String),
    mark ∈ [':', '?', ']'] ∧
      Expression.fieldHead name required = "\"" ++ name ++ "\"" ++ (mark.toString ++ rest) := by
  cases required with
  | true => exact ⟨':', " ", by decide, by simp only [Expression.fieldHead, String.append_assoc]; rfl⟩
  | false => exact ⟨'?', ": ", by decide, by simp only [Expression.fieldHead, String.append_assoc]; rfl⟩

theorem run_operationHead : ∀ method ∈ Paths.methods,
    Scan.start.run (Paths.methodHead method ++ "operations[").toList =
      some ⟨.between, [.quoted '"' method.toList, .mark ':', .word "operations".toList, .mark '[']⟩ := by
  decide

theorem field_of_id {operation : Entries} {id : Scalar} (h : Paths.id? operation = some id) :
    Value.field "operationId" operation = .scalar id ∧ id.truthy = true := by
  unfold Paths.id? at h
  split at h
  · rename_i found hfound
    split at h
    · rename_i ht
      cases h
      exact ⟨hfound, ht⟩
    · cases h
  · cases h

section Sites

variable {text : String}

theorem standsIn_property {root : String} {p : Property} {s : Schema}
    {others : List (Property × Schema)}
    (h : (Schema.composeFields root ((p, s) :: others)).result = .ok text) :
    ∃ name, p.name.plain = .ok name ∧ StandsIn name.toList text := by
  rw [Schema.composeFields] at h
  obtain ⟨comment, l₁, hc, hgo⟩ := exec_bind_ok.mp (Prod.ext h rfl)
  obtain ⟨name, l₂, hn, hgo⟩ := exec_bind_ok.mp hgo
  obtain ⟨type, l₃, -, hgo⟩ := exec_bind_ok.mp hgo
  obtain ⟨_, l₄, -, hgo⟩ := exec_bind_ok.mp hgo
  obtain ⟨fields, l₅, -, hend⟩ := exec_bind_ok.mp hgo
  cases hend
  obtain ⟨mark, rest, hmark, hhead⟩ := fieldHead_mark name p.required
  refine ⟨name, (exec_lift_ok.mp hn).1, standsIn_of_comment (exec_lift_ok.mp hc).1 mark
    (rest ++ ((if p.nullable then Expression.orNull type else type) ++ ";\n" ++ fields)) hmark ?_⟩
  rw [Property.declare, hhead]
  simp only [String.append_assoc]

theorem standsIn_parameter {name : Scalar} {f : ParameterField} (h : f.render name = .ok text) :
    ∃ plain, name.plain = .ok plain ∧ StandsIn plain.toList text := by
  unfold ParameterField.render at h
  obtain ⟨comment, hc, h⟩ := except_bind_ok.mp h
  obtain ⟨plain, hn, hend⟩ := except_bind_ok.mp h
  cases hend
  obtain ⟨mark, rest, hmark, hhead⟩ := fieldHead_mark plain f.required
  refine ⟨plain, hn, standsIn_of_comment hc mark (rest ++ (f.type ++ ";\n")) hmark ?_⟩
  rw [hhead]
  simp only [String.append_assoc]

theorem standsIn_location {location : Scalar} {fields : List (Scalar × ParameterField)}
    (h : ParameterGroups.renderGroup location fields = .ok text) :
    ∃ name, location.plain = .ok name ∧ StandsIn name.toList text := by
  unfold ParameterGroups.renderGroup at h
  obtain ⟨name, hn, h⟩ := except_bind_ok.mp h
  obtain ⟨fields, _, hend⟩ := except_bind_ok.mp h
  cases hend
  refine ⟨name, hn, standsIn_of_noComment ':' (" \x7b\n" ++ fields ++ "\x7d\n") (by decide) ?_⟩
  simp only [String.append_assoc]
  rfl

theorem standsIn_mediaType {name : Scalar} {media : Value}
    (h : (Operation.mediaType ctx name media).result = .ok text) :
    ∃ plain, name.plain = .ok plain ∧ StandsIn plain.toList text := by
  rw [Operation.mediaType_eq] at h
  obtain ⟨plain, l₁, hn, hgo⟩ := exec_bind_ok.mp (Prod.ext h rfl)
  obtain ⟨type, l₂, -, hend⟩ := exec_bind_ok.mp hgo
  cases hend
  refine ⟨plain, (exec_lift_ok.mp hn).1, standsIn_of_noComment ':' (" " ++ type ++ ";\n")
    (by decide) ?_⟩
  simp only [String.append_assoc]
  rfl

theorem standsIn_path {p : Scalar × Entries} (h : (Paths.entry ctx p).result = .ok text) :
    ∃ name, p.1.plain = .ok name ∧ StandsIn name.toList text := by
  unfold Paths.entry at h
  obtain ⟨name, l₁, hn, hgo⟩ := exec_bind_ok.mp (Prod.ext h rfl)
  obtain ⟨body, l₂, -, hend⟩ := exec_bind_ok.mp hgo
  cases hend
  refine ⟨name, (exec_lift_ok.mp hn).1, standsIn_of_noComment ':'
    (" \x7b\n" ++ body ++ "\x7d\n") (by decide) ?_⟩
  rw [Paths.block]
  simp only [String.append_assoc]
  rfl

theorem standsIn_operation {id : Scalar} {operation : Value}
    (h : (Generator.declaredOperation ctx id operation).result = .ok text) :
    ∃ name, id.plain = .ok name ∧ StandsIn name.toList text := by
  unfold Generator.declaredOperation at h
  obtain ⟨entries, l₁, -, hgo⟩ := exec_bind_ok.mp (Prod.ext h rfl)
  obtain ⟨comment, l₂, hc, hgo⟩ := exec_bind_ok.mp hgo
  obtain ⟨name, l₃, hn, hgo⟩ := exec_bind_ok.mp hgo
  obtain ⟨type, l₄, -, hend⟩ := exec_bind_ok.mp hgo
  cases hend
  refine ⟨name, (exec_lift_ok.mp hn).1, standsIn_of_comment (exec_lift_ok.mp hc).1 ':'
    (" " ++ type) (by decide) ?_⟩
  simp only [String.append_assoc]
  rfl

theorem standsIn_operationName {method : String} {operation : Entries} {id : Scalar}
    (hm : method ∈ Paths.methods) (hid : Paths.id? operation = some id)
    (h : (Paths.operation ctx method operation).result = .ok text) :
    ∃ name, id.plain = .ok name ∧ StandsIn name.toList text := by
  obtain ⟨hfield, ht⟩ := field_of_id hid
  unfold Paths.operation at h
  dsimp only at h
  rw [hfield, Value.truthy, if_pos ht] at h
  obtain ⟨_, l₁, -, hgo⟩ := exec_bind_ok.mp (Prod.ext h rfl)
  obtain ⟨name, l₂, hn, hend⟩ := exec_bind_ok.mp hgo
  cases hend
  have htext : (Paths.methodHead method ++ Paths.operationName name ++ ";\n").toList =
      (Paths.methodHead method ++ "operations[").toList ++
        (quotedName name.toList ++ ']' :: ";\n".toList) := by
    rw [Paths.operationName]
    simp [quotedName]
  exact ⟨name, (exec_lift_ok.mp hn).1, standsIn_of_run htext (by decide) (run_operationHead method hm)⟩

theorem standsIn_content {name : Scalar} {entries : Entries}
    (h : (Generator.namedContent ctx name (.map entries)).result = .ok text) :
    ∃ plain, name.plain = .ok plain ∧ StandsIn plain.toList text := by
  unfold Generator.namedContent at h
  obtain ⟨comment, l₁, hc, hgo⟩ := exec_bind_ok.mp (Prod.ext h rfl)
  obtain ⟨plain, l₂, hn, hgo⟩ := exec_bind_ok.mp hgo
  obtain ⟨body, l₃, -, hend⟩ := exec_bind_ok.mp hgo
  cases hend
  refine ⟨plain, (exec_lift_ok.mp hn).1, standsIn_of_comment (exec_lift_ok.mp hc).1 ':'
    (" " ++ body ++ "\n") (by decide) ?_⟩
  simp only [String.append_assoc]
  rfl

theorem standsIn_of_writesKey {key : Scalar} (h : WritesKey ctx key text) :
    ∃ name, key.plain = .ok name ∧ StandsIn name.toList text := by
  cases h with
  | property h => exact standsIn_property h
  | parameter h => exact standsIn_parameter h
  | location h => exact standsIn_location h
  | mediaType h => exact standsIn_mediaType h
  | path h => exact standsIn_path h
  | operation h => exact standsIn_operation h
  | operationName hm hid h => exact standsIn_operationName hm hid h
  | content h => exact standsIn_content h

end Sites

theorem bracket_quoted (name : List Char) :
    Reference.bracket name = '[' :: (quotedName name ++ [']']) := by
  simp [Reference.bracket, quotedName]

/-- How names are written as keys and as indices, and which of them are read back. -/
structure NamesQuoted (ctx : Context) : Prop where
  keys : ∀ key text, WritesKey ctx key text → ∃ name, key.plain = .ok name ∧ StandsIn name.toList text
  indices : ∀ root ref : String, (Reference.expression root ref).toList = Reference.head root ref ++
    (Reference.indices root ref).flatMap fun name => '[' :: (quotedName name ++ [']'])
  readBack : ∀ (name : List Char) (ts : List Token),
    Scan.run ⟨.between, ts⟩ (quotedName name) = some ⟨.between, ts ++ [.quoted '"' name]⟩ ↔ Quotable name
  apart : ∀ (name other : List Char) (ts : List Token), Quotable name → Quotable other →
    Scan.run ⟨.between, ts⟩ (quotedName name) = Scan.run ⟨.between, ts⟩ (quotedName other) → name = other
  component : ∀ (s : Generator.Section) (segment : String), '/' ∉ segment.toList →
    (Reference.expression "" (Reference.componentRef s.name segment)).toList = "components".toList ++
      ('[' :: (quotedName s.name.toList ++ [']'])) ++
        ('[' :: (quotedName (Reference.unescape segment.toList) ++ [']']))

/-- A name is written as it is wherever it is written, and is read back exactly if it holds no double
quote, no backslash and no line break. -/
theorem names_quoted (ctx : Context) : NamesQuoted ctx where
  keys _ _ h := standsIn_of_writesKey h
  indices root ref := by
    rw [Reference.expression_eq, funext bracket_quoted]
  readBack name ts := run_quotedName_iff
  apart name other ts hname hother h := by
    rw [run_quotedName_iff.mpr hname, run_quotedName_iff.mpr hother] at h
    have htokens := List.append_cancel_left (Scan.mk.inj (Option.some.inj h)).2
    exact (Token.quoted.inj (List.cons.inj htokens).1).2
  component s segment hsegment := by
    have hpart : '/' ∉ s.name.toList ∧ '~' ∉ s.name.toList := by
      cases s <;> decide
    rw [Reference.expression_component hpart.1 hpart.2 hsegment]
    unfold Reference.componentAddress Reference.segmentName
    simp [quotedName]

def schemasNamed (names : List String) : Entries :=
  [(.text "components", .map [(.text "schemas",
    .map (names.map fun name => (.text name, .map [(.text "type", .text "string")])))])]

def schemasText (fields : String) : String :=
  Generator.interface "operations" "\n" ++ "\n" ++
    Generator.interface "components" (Generator.record "schemas" fields)

/-- A double quote in a name leaves a text that cannot be read, and a name with a backslash is read as
another name of the same record. -/
theorem names_lost :
    Generator.generated? ⟨false, none⟩ (.map (schemasNamed ["a\"b"])) =
        some (schemasText "\"a\"b\": string;\n") ∧
      words? (schemasText "\"a\"b\": string;\n").toList = none ∧
    Generator.generated? ⟨false, none⟩ (.map (schemasNamed ["a\\tb", "a\tb"])) =
        some (schemasText "\"a\\tb\": string;\n\"a\tb\": string;\n") ∧
      ((words? (schemasText "\"a\\tb\": string;\n\"a\tb\": string;\n").toList).map
        fun words => words.count (.quoted '"' "a\tb".toList)) = some 2 := by
  decide +kernel

end ApiTypes
