-- SUMMARY: The pass that gives collections with a length and an item getter the parent ItemArrayLike.
import Bindings.Pass.Basic

/-!
# Array-like collections

Interface definitions declare a collection by a read-only attribute `length` and
an indexed getter `item`. The pass gives every such interface the parent
`ItemArrayLike<T>`, so that it can be iterated like an array, and sees to it that
the marker interface itself is declared in the root package: in the first file
of that package, or in a new file after all others.
-/
namespace Bindings.ItemArrayLike

open Source (Property Getter Heritage Interface Ty Decl Module File SourceSet)

/-- Name of the marker interface. -/
def markerName : String := "ItemArrayLike"

/-- The type of a length and of an index. -/
def unsignedLong : String := "unsignedlong"

/-- Annotation of interfaces that do not exist as objects at run time. -/
def noInterfaceObject : String := "NoInterfaceObject"

/-! ## Collections -/

def isLength (p : Property) : Bool :=
  p.name == "length" && p.readonly && !p.isStatic && p.ty.isBare unsignedLong

def isItem (g : Getter) : Bool := g.name == "item" && g.key.ty.isBare unsignedLong

/-- Whether the interface is the marker or already has it as a parent. -/
def isMarked (i : Interface) : Bool :=
  i.name.isIdent markerName || i.parents.any fun parent => parent.refersTo markerName

/-- The type of the items, if the interface is a collection. -/
def itemType? (i : Interface) : Option Ty :=
  if i.properties.any isLength then (i.getters.find? isItem).map Getter.value else none

/-- The interface with the marker as its last parent, if it is a collection
without it. -/
def mark (i : Interface) : Interface :=
  if isMarked i then i
  else match itemType? i with
    | none => i
    | some item =>
      let parent := Heritage.ofName (.ident markerName) [item.nonNullable]
      { i with parents := i.parents ++ [parent] }

/-! ## The marker -/

/-- `interface ItemArrayLike<T> { val length: unsignedlong; getter T? item(unsignedlong index) }` -/
def marker : Interface where
  name := .ident markerName
  members :=
    [.property { Property.plain "length" (.named (.ident unsignedLong)) with readonly := true },
      .getter {
        name := "item"
        key := .plain "index" (.named (.ident unsignedLong))
        value := (Ty.named (.ident "T")).withNullable true }]
  typeParams := [.plain (.ident "T")]
  parents := []
  annotations := [⟨noInterfaceObject, []⟩]
  generated := true

/-- Whether the marker stands directly in the module. -/
def declaresMarker (m : Module) : Bool :=
  m.interfaces.any fun i => i.name.isIdent markerName

/-- The file with the marker in its root module. -/
def withMarker (f : File) : File :=
  if declaresMarker f.root then f
  else
    let root := { f.root with declarations := f.root.declarations ++ [.interfaceDecl marker] }
    { f with root := root }

/-- Put the marker into the first file of the package, or into a new file. -/
def placeMarker (package : Name) : List File → List File
  | [] => [withMarker (.plain package.text (.plain package []))]
  | f :: fs => if f.package = package then withMarker f :: fs else f :: placeMarker package fs

/-! ## The pass -/

/-- The package of the marker unless another one is chosen. -/
def defaultPackage : Name := (((Name.ident libRoot).append "org").append "w3c").append "dom"

/-- The pass with the marker in `package`. -/
def pass {μ : Type → Type} [Monad μ] (package : Name) : Pass μ where
  name := "item-array-like"
  visit _ i := return mark i
  finish s := ⟨placeMarker package s.files⟩

end Bindings.ItemArrayLike
