import ClusterHealth.Network.Address
import ClusterHealth.Number.Decimal
import ClusterHealth.Text.Blank
import ClusterHealth.Text.Quoted

/-!
# `ClusterHealth.Value` — values whose type is not known beforehand

Cluster metadata and configuration arrive as values of any type. A value has two texts: `Value.display`,
in which a text stands for itself, and `Value.quoted`, in which it stands between quotes as it does
inside a list.
-/

namespace ClusterHealth

open ClusterHealth.Text ClusterHealth.Number ClusterHealth.Network

/-- A value of metadata or configuration. -/
inductive Value where
  | null
  | bool (b : Bool)
  | int (n : Int)
  | float (x : Binary64)
  | text (s : String)
  | bytes (bs : List UInt8)
  | address (a : Address)
  | list (items : List Value)
  | map (entries : List (String × Value))

instance : Inhabited Value := ⟨.null⟩

namespace Value

/-- The name under which an address is quoted. -/
def addressLabel : Address → String
  | .v4 _ => "IPv4Address"
  | .v6 .. => "IPv6Address"

mutual

/-- A value as it is written inside a list or a map. -/
def quoted : Value → String
  | .null => "None"
  | .bool b => if b then "True" else "False"
  | .int n => decimalInt n
  | .float x => x.text
  | .text s => Text.quoted s
  | .bytes bs => quotedBytes bs
  | .address a => addressLabel a ++ "(" ++ Text.quoted a.text ++ ")"
  | .list items => "[" ++ String.intercalate ", " (quotedItems items) ++ "]"
  | .map entries => "\x7b" ++ String.intercalate ", " (quotedEntries entries) ++ "\x7d"

/-- The items of a list, each quoted. -/
def quotedItems : List Value → List String
  | [] => []
  | v :: rest => quoted v :: quotedItems rest

/-- The entries of a map, each as a quoted key, a colon and a quoted value. -/
def quotedEntries : List (String × Value) → List String
  | [] => []
  | (key, v) :: rest => (Text.quoted key ++ ": " ++ quoted v) :: quotedEntries rest

end

/-- A value as text: a text and an address stand for themselves. -/
def display : Value → String
  | .text s => s
  | .address a => a.text
  | v => v.quoted

end Value

end ClusterHealth
