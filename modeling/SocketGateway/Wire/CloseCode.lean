/-!
# Close codes

A close frame may carry a code of 16 bits. Some codes have a name, the others fall into ranges:
reserved ones, those registered for applications, and those for private use.
-/

namespace SocketGateway.Wire

abbrev CloseCode := UInt16

namespace CloseCode

def normal : CloseCode := 1000

def away : CloseCode := 1001

def policy : CloseCode := 1008

def tryAgain : CloseCode := 1013

def name (c : CloseCode) : String :=
  match c.toNat with
  | 1000 => "Normal"
  | 1001 => "Away"
  | 1002 => "Protocol"
  | 1003 => "Unsupported"
  | 1005 => "Status"
  | 1006 => "Abnormal"
  | 1007 => "Invalid"
  | 1008 => "Policy"
  | 1009 => "Size"
  | 1010 => "Extension"
  | 1011 => "Error"
  | 1012 => "Restart"
  | 1013 => "Again"
  | 1015 => "Tls"
  | n =>
    let range :=
      if 1016 ≤ n ∧ n < 3000 then "Reserved"
      else if 3000 ≤ n ∧ n < 4000 then "Iana"
      else if 4000 ≤ n ∧ n < 5000 then "Library"
      else "Bad"
    range ++ "(" ++ toString n ++ ")"

end CloseCode

end SocketGateway.Wire
