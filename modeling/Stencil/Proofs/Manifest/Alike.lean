import Stencil.Proofs.Manifest.Steps
import Stencil.Proofs.Markup.Values

/-
  What counts in a manifest. The place where an element stands decides whether it counts, which
  of its attributes are read, and at which place its content stands. Forests are alike at a place
  if they differ in what does not count there.

  Proved: `Alike.foldlM_members`. Forests that are alike at the top read the same, to one module
  or to one fault.
-/

namespace Stencil.Manifest

open Markup

/-! ## Places -/

/-- Where elements stand. -/
inductive Place where
  | top
  | module
  | record
  | capabilities
  | method
  /-- Nothing is read there. -/
  | unread
  deriving DecidableEq, Repr

namespace Place

/-- The keys that are read of an element of a module, if it declares something. -/
def memberKeys (name : String) : Option (List String) :=
  if name = "import" then some ["path", "name"]
  else if name = "record" then some ["name"]
  else if name = "capabilities" then some ["name"]
  else if name = "type" then some ["name", "underlying"]
  else none

/-- The keys that are read of an element, if it counts. At the top every element counts, since
none may stand before the module; and in a module a further one counts as a fault. -/
def keys? : Place → String → Option (List String)
  | top, name =>
    some (if name = "module" then ["path", "name", "root"] else (memberKeys name).getD [])
  | module, name => if name = "module" then some [] else memberKeys name
  | record, name => if name = "field" then some ["name", "type", "tag"] else none
  | capabilities, name => if name = "method" then some ["name", "variadic"] else none
  | method, name => if name = "param" ∨ name = "result" then some ["name", "type"] else none
  | unread, _ => none

/-- Where the content of an element of a module stands. -/
def ofMember (name : String) : Place :=
  if name = "record" then record
  else if name = "capabilities" then capabilities
  else unread

/-- Where the content of an element stands. What is behind the module stands as if inside. -/
def inner : Place → String → Place
  | top, name => if name = "module" then module else ofMember name
  | module, name => ofMember name
  | capabilities, name => if name = "method" then method else unread
  | record, _ => unread
  | method, _ => unread
  | unread, _ => unread

end Place

/-! ## Forests that are alike -/

/-- Elements of one name, with the same values for some keys. -/
structure ReadSame (keys : List String) (node node' : Node) : Prop where
  name : node.name = node'.name
  values : SaySame keys node.attributes node'.attributes

/-- The forests have the same elements that count, with the same values for what is read. -/
inductive Alike : Place → List Node → List Node → Prop
  | nil {p : Place} : Alike p [] []
  | extra {p : Place} {node : Node} {nodes nodes' : List Node}
      (unknown : p.keys? node.name = none) (rest : Alike p nodes nodes') :
      Alike p (node :: nodes) nodes'
  | missing {p : Place} {node : Node} {nodes nodes' : List Node}
      (unknown : p.keys? node.name = none) (rest : Alike p nodes nodes') :
      Alike p nodes (node :: nodes')
  | both {p : Place} {node node' : Node} {keys : List String} {nodes nodes' : List Node}
      (known : p.keys? node.name = some keys) (same : ReadSame keys node node')
      (content : Alike (p.inner node.name) node.children node'.children)
      (rest : Alike p nodes nodes') : Alike p (node :: nodes) (node' :: nodes')

section

variable {p : Place} {key : String} {keys : List String} {node node' : Node}
  {nodes nodes' : List Node}

theorem Alike.cons (same : ReadSame ((p.keys? node.name).getD []) node node')
    (content : Alike (p.inner node.name) node.children node'.children)
    (rest : Alike p nodes nodes') : Alike p (node :: nodes) (node' :: nodes') := by
  cases known : p.keys? node.name with
  | none => exact .extra known (.missing (same.name ▸ known) rest)
  | some keys =>
    rw [known] at same
    exact .both known same content rest

theorem alike_refl (p : Place) (nodes : List Node) : Alike p nodes nodes := by
  match nodes with
  | [] => exact .nil
  | .element name attributes children :: rest =>
    exact .cons ⟨rfl, saySame_refl _ _⟩ (alike_refl (p.inner name) children) (alike_refl p rest)

/-- Elements that mean nothing at a place may stand in front. -/
theorem alike_append (unknown : ∀ node ∈ nodes, p.keys? node.name = none)
    (others : List Node) : Alike p others (nodes ++ others) := by
  induction nodes with
  | nil => exact alike_refl p others
  | cons node nodes ih =>
    exact .missing (unknown node List.mem_cons_self)
      (ih fun other mem => unknown other (List.mem_cons_of_mem node mem))

/-! ## Reading elements -/

namespace ReadSame

theorem attribute?_eq (h : ReadSame keys node node') (mem : key ∈ keys) :
    attribute? node key = attribute? node' key := by
  have decoded (node : Node) : attribute? node key =
      ((decodeAttributes node.attributes).map (·.lookup key)).mapError .reference := by
    unfold attribute?
    cases decodeAttributes node.attributes with
    | error why => rfl
    | ok values => rfl
  rw [decoded node, decoded node', h.values key mem]

theorem required_eq (h : ReadSame keys node node') (mem : key ∈ keys) :
    required node key = required node' key := by
  unfold required
  rw [h.attribute?_eq mem, h.name]

theorem requiredType_eq (h : ReadSame keys node node') (mem : key ∈ keys) :
    requiredType node key = requiredType node' key := by
  unfold requiredType
  rw [h.required_eq mem, h.name]

theorem readField_eq (h : ReadSame ["name", "type", "tag"] node node') :
    readField node = readField node' := by
  unfold readField
  rw [h.required_eq (by simp), h.requiredType_eq (by simp), h.attribute?_eq (by simp)]

theorem readParam_eq (h : ReadSame ["name", "type"] node node') :
    readParam node = readParam node' := by
  unfold readParam
  rw [h.attribute?_eq (by simp), h.requiredType_eq (by simp)]

theorem readVariadic_eq (h : ReadSame ["name", "variadic"] node node') :
    readVariadic node = readVariadic node' := by
  unfold readVariadic
  rw [h.attribute?_eq (by simp), h.name]

theorem readImport_eq (h : ReadSame ["path", "name"] node node') :
    readImport node = readImport node' := by
  unfold readImport
  rw [h.required_eq (by simp), h.attribute?_eq (by simp)]

theorem readHeader_eq (h : ReadSame ["path", "name", "root"] node node') :
    readHeader node = readHeader node' := by
  have path : attribute? node "path" = attribute? node' "path" := h.attribute?_eq (by simp)
  have name : attribute? node "name" = attribute? node' "name" := h.attribute?_eq (by simp)
  have root : attribute? node "root" = attribute? node' "root" := h.attribute?_eq (by simp)
  unfold readHeader
  rw [path, name, root, h.name]

end ReadSame

/-! ## Reading forests -/

namespace Alike

/-- What reads the elements that count, and passes over the others, reads both the same. -/
theorem foldlM_eq {β : Type} {f : β → Node → Result β}
    (skip : ∀ b node, p.keys? node.name = none → f b node = .ok b)
    (step : ∀ b node node' keys, p.keys? node.name = some keys → ReadSame keys node node' →
      Alike (p.inner node.name) node.children node'.children → f b node = f b node')
    (h : Alike p nodes nodes') (b : β) : nodes.foldlM f b = nodes'.foldlM f b := by
  -- the place stays the same along a forest; what differs inside is left to `step`
  induction h generalizing b with
  | nil => rfl
  | @extra _ node _ _ unknown _ ih =>
    rw [List.foldlM_cons, skip b node unknown]
    exact ih skip step b
  | @missing _ node _ _ unknown _ ih =>
    rw [List.foldlM_cons, skip b node unknown]
    exact ih skip step b
  | both known same content _ _ ih =>
    rw [List.foldlM_cons, List.foldlM_cons, step b _ _ _ known same content]
    exact bind_congr fun next => ih skip step next

/-- Where elements of one name count, reading them all reads both the same. -/
theorem mapM_eq {β : Type} {f : Node → Result β}
    (only : ∀ name, p.keys? name = if name = key then some keys else none)
    (step : ∀ node node', ReadSame keys node node' →
      Alike (p.inner key) node.children node'.children → f node = f node')
    (h : Alike p nodes nodes') :
    (nodes.filter (·.name = key)).mapM f = (nodes'.filter (·.name = key)).mapM f := by
  have other {node : Node} (unknown : p.keys? node.name = none) : node.name ≠ key := by
    rintro same
    rw [only, if_pos same] at unknown
    cases unknown
  induction h with
  | nil => rfl
  | extra unknown _ ih =>
    rw [List.filter_cons_of_neg (by simpa using other unknown)]
    exact ih only step other
  | missing unknown _ ih =>
    rw [List.filter_cons_of_neg (by simpa using other unknown)]
    exact ih only step other
  | @both p node node' found nodes nodes' known same content _ _ ih =>
    rw [only] at known
    split at known
    · rename_i named
      cases known
      rw [named] at content
      rw [List.filter_cons_of_pos (by simpa using named),
        List.filter_cons_of_pos (by simpa [← same.name] using named), List.mapM_cons,
        List.mapM_cons, step _ _ same content, ih only step other]
    · cases known

theorem readFields_eq (h : Alike .record nodes nodes') : readFields nodes = readFields nodes' :=
  h.mapM_eq (fun _ => rfl) fun _ _ same _ => same.readField_eq

theorem foldlM_readSignaturePart (h : Alike .method nodes nodes') (m : Method) :
    nodes.foldlM readSignaturePart m = nodes'.foldlM readSignaturePart m := by
  refine h.foldlM_eq (fun m node unknown => ?_) (fun m node node' keys known same _ => ?_) m
  · have other : ¬ (node.name = "param" ∨ node.name = "result") := by
      intro part
      simp [Place.keys?, part] at unknown
    rw [not_or] at other
    simp [readSignaturePart, other]
  · unfold Place.keys? at known
    dsimp only at known
    split at known
    · cases known
      unfold readSignaturePart
      rw [same.readParam_eq, same.name]
    · cases known

theorem readMethod_eq (same : ReadSame ["name", "variadic"] node node')
    (content : Alike .method node.children node'.children) :
    readMethod node = readMethod node' := by
  unfold readMethod
  rw [same.required_eq (by simp), same.readVariadic_eq]
  simp only [content.foldlM_readSignaturePart]

theorem readMethods_eq (h : Alike .capabilities nodes nodes') :
    readMethods nodes = readMethods nodes' := by
  refine h.mapM_eq (fun _ => rfl) fun node node' same content => ?_
  exact readMethod_eq same content

end Alike

/-! ## Reading modules -/

theorem readMember_unknown (unknown : Place.memberKeys node.name = none) (m : Module) :
    readMember m node = .ok m := by
  unfold Place.memberKeys at unknown
  unfold readMember
  split at unknown
  · cases unknown
  split at unknown
  · cases unknown
  split at unknown
  · cases unknown
  split at unknown
  · cases unknown
  rename_i no_import no_record no_capabilities no_type
  rw [if_neg no_import, if_neg no_record, if_neg no_capabilities, if_neg no_type]

theorem readMember_eq (same : ReadSame ((Place.memberKeys node.name).getD []) node node')
    (content : Alike (.ofMember node.name) node.children node'.children) (m : Module) :
    readMember m node = readMember m node' := by
  unfold Place.memberKeys at same
  unfold Place.ofMember at content
  unfold readMember
  rw [← same.name]
  split
  · rename_i element
    rw [if_pos element] at same
    rw [same.readImport_eq]
  rename_i no_import
  rw [if_neg no_import] at same
  split
  · rename_i element
    rw [if_pos element] at same content
    rw [same.required_eq (by simp), content.readFields_eq]
  rename_i no_record
  rw [if_neg no_record] at same content
  split
  · rename_i element
    rw [if_pos element] at same content
    rw [same.required_eq (by simp), content.readMethods_eq]
  rename_i no_capabilities
  rw [if_neg no_capabilities] at same
  split
  · rename_i element
    rw [if_pos element] at same
    rw [same.required_eq (by simp), same.requiredType_eq (by simp)]
  · rfl

/-- What an element makes of an open module. -/
def readInside (m : Module) (node : Node) : Result Module :=
  if node.name = "module" then .error .secondModule else readMember m node

theorem readElement_some (m : Module) (node : Node) :
    readElement (some m) node = (readInside m node).map some := by
  unfold readInside
  by_cases second : node.name = "module"
  · rw [readElement_second second, if_pos second]
    rfl
  · rw [readElement_open second, if_neg second]

theorem foldlM_some (nodes : List Node) (m : Module) :
    nodes.foldlM readElement (some m) = (nodes.foldlM readInside m).map some := by
  induction nodes generalizing m with
  | nil => rfl
  | cons node nodes ih =>
    rw [List.foldlM_cons, List.foldlM_cons, readElement_some]
    cases readInside m node with
    | error why => rfl
    | ok next => exact ih next

theorem Alike.foldlM_content (h : Alike .module nodes nodes') (m : Module) :
    nodes.foldlM readElement (some m) = nodes'.foldlM readElement (some m) := by
  rw [foldlM_some, foldlM_some]
  refine congrArg (Except.map some) (h.foldlM_eq (fun m node unknown => ?_)
    (fun m node node' keys known same content => ?_) m)
  · unfold Place.keys? at unknown
    unfold readInside
    dsimp only at unknown
    split at unknown
    · cases unknown
    · rename_i inside
      rw [if_neg inside, readMember_unknown unknown]
  · unfold Place.keys? at known
    unfold readInside
    rw [← same.name]
    dsimp only at known
    split at known
    · rename_i second
      rw [if_pos second, if_pos second]
    · rename_i inside
      rw [if_neg inside, if_neg inside]
      exact readMember_eq (by rwa [known]) content m

/-- What an element at the top comes to, with its content if it is a module. -/
def readTop (found : Option Module) (node : Node) : Result (Option Module) :=
  if node.name = "module" then
    readElement found node >>= node.children.foldlM readElement
  else readElement found node

theorem foldlM_readTop (forest : List Node) (found : Option Module) :
    (members forest).foldlM readElement found = forest.foldlM readTop found := by
  induction forest generalizing found with
  | nil => rfl
  | cons node forest ih =>
    have first : (if node.name = "module" then node :: node.children else [node]).foldlM
        readElement found = readTop found node := by
      unfold readTop
      split
      · rw [List.foldlM_cons]
      · rw [List.foldlM_cons]
        exact bind_pure _
    rw [members, List.flatMap_cons, ← members, List.foldlM_append, List.foldlM_cons, first]
    exact bind_congr fun next => ih next

theorem readTop_eq (same : ReadSame ((Place.top.keys? node.name).getD []) node node')
    (content : Alike (Place.top.inner node.name) node.children node'.children)
    (found : Option Module) : readTop found node = readTop found node' := by
  unfold Place.keys? at same
  unfold Place.inner at content
  dsimp only at same content
  unfold readTop
  rw [← same.name]
  split
  · rename_i top
    rw [Option.getD_some, if_pos top] at same
    rw [if_pos top] at content
    cases found with
    | none =>
      have header (node : Node) (top : node.name = "module") :
          readElement none node = (readHeader node).map some := if_pos top
      rw [header node top, header node' (same.name ▸ top), same.readHeader_eq]
      cases readHeader node' with
      | error why => rfl
      | ok m => exact content.foldlM_content m
    | some m =>
      rw [readElement_second top, readElement_second (same.name ▸ top)]
      rfl
  · rename_i other
    rw [Option.getD_some, if_neg other] at same
    rw [if_neg other] at content
    cases found with
    | none =>
      unfold readElement
      dsimp only
      rw [← same.name, if_neg other, if_neg other]
    | some m =>
      rw [readElement_open other, readElement_open (same.name ▸ other),
        readMember_eq same content]

/-- Forests that are alike at the top read the same, to one module or one fault. -/
theorem Alike.foldlM_members (h : Alike .top nodes nodes') :
    (members nodes).foldlM readElement none = (members nodes').foldlM readElement none := by
  rw [foldlM_readTop, foldlM_readTop]
  refine h.foldlM_eq (fun _ _ unknown => by cases unknown)
    (fun found node node' keys known same content => ?_) none
  exact readTop_eq (by rwa [known]) content found

end

end Stencil.Manifest
