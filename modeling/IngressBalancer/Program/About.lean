/-!
# About the program

What the program calls itself.
-/

namespace IngressBalancer

namespace Program

def name : String := "alb-ingress-controller"

def title : String := "ALB Ingress Controller"

def version : String := "0.1.0"

def about : String := "Kubernetes ingress controller that converges cloud application load balancers"

/-- Title and version in one line. -/
def banner : String := title ++ " v" ++ version

end Program

end IngressBalancer
