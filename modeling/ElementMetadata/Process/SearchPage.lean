import ElementMetadata.Record.Table

/-!
Pages of search results: items, and how many there are in all.
-/
namespace ElementMetadata

structure PageInfo where
  totalItems : UInt64 := 0
deriving DecidableEq

namespace PageInfo

def fields : List (Field PageInfo) :=
  [ .defaulted "totalItems" (.integer .unsigned64) fun p => .integer (.ofUInt64 p.totalItems) ]

instance : Codec PageInfo where
  form := .record "PageInfo" (Field.slots fields)
  ofNormal v := ⟨(v.integer? "totalItems").elim 0 fun n => UInt64.ofNat n.toNat⟩
  toJson := Field.writeAll fields

end PageInfo

structure SearchPage (α : Type) where
  items : List α := []
  info : PageInfo := {}
deriving BEq, DecidableEq

namespace SearchPage
variable {α : Type} [Codec α]

def fields : List (Field (SearchPage α)) :=
  [ .defaulted "items" (.list (Codec.form α)) fun p => .array (p.items.map Codec.toJson),
    .defaulted "page" (Codec.form PageInfo) fun p => Codec.toJson p.info ]

instance : Codec (SearchPage α) where
  form := .record "SearchPage" (Field.slots (fields (α := α)))
  ofNormal v :=
    { items := ((v.items? "items").getD []).map Codec.ofNormal
      info := (v.member? "page").elim {} Codec.ofNormal }
  toJson := Field.writeAll fields

end SearchPage
end ElementMetadata
