import OneCloud.GoText
import OneCloud.Strconv
import OneCloud.Db.Sharable
import OneCloud.Db.SharableHistory
import OneCloud.Db.SharableCandidates
import OneCloud.Db.SharableCreate
import OneCloud.Compute.RouteTableStore
import OneCloud.Compute.RouteTableSync
import OneCloud.Compute.RouteTableConvergence
import OneCloud.Compute.RouteValidate
import OneCloud.Compute.RouteRevalidate
import OneCloud.Compute.RouteEdit
import OneCloud.Compute.RouteTableLifecycle
import OneCloud.Compute.DiskInput
import OneCloud.Monitor.SuggestSysRule
import OneCloud.HttpUtils.JsonResponse
import OneCloud.HttpUtils.AddrPort
import OneCloud.HttpUtils.Helpers
import OneCloud.Monitor.FanIn
import OneCloud.Monitor.DataSource
