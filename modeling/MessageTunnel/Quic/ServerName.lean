import MessageTunnel.Quic.Address
set_option autoImplicit false

namespace MessageTunnel.Quic.ServerName

def maxName : Nat := 253

def maxLabel : Nat := 63

def isLabelChar (c : Char) : Bool := c.isAlphanum || c == '-' || c == '_'

def isLabel (label : List Char) : Bool :=
  !label.isEmpty && decide (label.length ≤ maxLabel) && label.all isLabelChar &&
    label.head? != some '-' && label.getLast? != some '-'

/-- Labels between dots, the last of which is not all digits. One dot may stand at the end. -/
def isDomain (name : List Char) : Bool :=
  let labels := name.splitOn '.'
  let labels := if labels.getLast? = some [] then labels.dropLast else labels
  decide (name.length ≤ maxName) && !labels.isEmpty && labels.all isLabel &&
    !(labels.getLast?.any fun label => label.all Char.isDigit)

def isValid (name : String) : Bool :=
  isDomain name.toList || (IpAddress.ofText? name.toList).isSome

end MessageTunnel.Quic.ServerName
