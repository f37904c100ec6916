import ZoneNet.Text.Cut

/-!
# Address objects

A static address is held by an object between its creation and its activation. Objects are named
after the interface that carries the address and a number from one counter for the whole run.
-/

namespace ZoneNet

/-- The name of an address object, `<interface>/addr<N>`. -/
structure ObjectName where
  text : String
  deriving DecidableEq, Repr

namespace ObjectName

/-- The name with number `n` on an interface. -/
def make (iface : String) (n : UInt32) : ObjectName :=
  ⟨iface ++ "/addr" ++ toString n.toNat⟩

/-- The interface part of a name: the text before its first `/`. -/
def interface (name : ObjectName) : String :=
  String.ofList (Text.before '/' name.text.toList)

end ObjectName

/-- A static address between creation and activation. -/
structure AddressObject where
  name : ObjectName
  address : Option String
  deriving DecidableEq, Repr

/-- An object without a value. -/
def AddressObject.fresh (name : ObjectName) : AddressObject := ⟨name, none⟩

/-- The run-wide source of names. It never goes back, so the number of a failed assignment is not
used again. -/
structure NameCounter where
  issued : UInt32 := 0
  deriving DecidableEq, Repr

namespace NameCounter

/-- The next name on an interface. -/
def next (c : NameCounter) (iface : String) : ObjectName × NameCounter :=
  (.make iface c.issued, ⟨c.issued + 1⟩)

end NameCounter

end ZoneNet
