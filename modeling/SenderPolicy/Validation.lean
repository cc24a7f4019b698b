import SenderPolicy.Dns.Client
import SenderPolicy.Domain.Ascii
import SenderPolicy.Evaluation

/-!
# Validation

The verdict on a sender of a domain, given as a text: the domain is put into normal form, and then its policy is
evaluated, or a policy text in its place. Questions go to a name server.
-/

namespace SenderPolicy

namespace Inquiry

variable (i : Inquiry)

/-- Goes on with the normal form of a domain text. -/
def withDomain (domain : String) (f : String → Run Halt Qualifier) : Run Halt Qualifier :=
  match Domain.normalize domain with
  | .ok d => f d
  | .error e => .fail (.failure e)

/-- The verdict of the policy of a domain text. -/
def check (domain : String) : Run Halt Qualifier :=
  withDomain domain i.validate

/-- The verdict of a policy text in place of that of a domain text. -/
def checkText (domain text : String) : Run Halt Qualifier :=
  withDomain domain fun d => i.validateText d text

end Inquiry

/-- Judges a sender over a link, as deep as a number says; where it sets no limit, policies are followed as deep as the
fuel says. -/
def Dns.Link.inquiry (link : Link) (sender : Address) (depth : Int) (fuel : Nat := 1) : Inquiry :=
  ⟨link.resolver, sender, .ofInt depth, fuel⟩

end SenderPolicy
