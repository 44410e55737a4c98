import PredictableIP.Go.Text
import PredictableIP.Go.Netip
import PredictableIP.Kube.Objects
import PredictableIP.Kube.Client
import PredictableIP.Designate.Funcs
import PredictableIP.Designate.Ranges
import PredictableIP.Designate.MultusJson
import PredictableIP.Designate.IPSet
import PredictableIP.Designate.Pool
import PredictableIP.Controllers.PodAnnotation
import PredictableIP.Templates.InitScripts
