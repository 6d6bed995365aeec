import EnvironmentOperator.Decoding

namespace EnvironmentOperator.Desired

def appLabels (app env : String) : Named String := .ofList [("app", app), ("developer-env", env)]

end EnvironmentOperator.Desired
