import Courier.Regex.Search
import Courier.Sniff.Kinds
import Courier.Transfer.Run
import Courier.Url.Parser

/-! The libraries that the command runs with. -/
namespace Courier

def Libraries.standard : Libraries where
  patterns := Regex.compiler
  links := Url.links
  sniff := Sniff.extension?

end Courier
